import Mathlib.Data.List.DropRight
import MiniTun.Common.Bytes
import MiniTun.Common.Result
import MiniTun.Lib.KeyedMap
import MiniTun.Lib.Path

/-!
# The files of the policy store

The policy document and the key files live in one directory tree without linked
directories, so every spelling of a path leads to one place.  `readSecureFile`
is the reader both kinds of file go through; `writeSecretFileAtomic` and
`writeSecureFileAtomic` are the two writers, which replace a file by renaming a
temporary one over it.  A system call that fails is an input of a writer.
-/

namespace MiniTun.Server

open KeyedMap LexicalPath

/-! ## Paths -/

variable {written : FileSystem} (text : Bytes)

/-- `std::filesystem::path{text}`. -/
def pathOf : Path Bytes :=
  ofText 47 46 text

/-- `path.lexically_normal().string()`. -/
def normalText (path : Path Bytes) : Bytes :=
  path.normal.text 47 46

/-- A place in the tree: the names that lead to it from the root. -/
abbrev Location := List Bytes

/-! ## The tree -/

/-- What a directory entry is; a link keeps the mode of the regular file it
leads to, if it leads to one. -/
inductive NodeKind where
  | regular
  | directory
  | symlink (target : Option Nat)
  | other
deriving DecidableEq

/-- What `fstat` and `read` tell of a file. -/
structure FileNode where
  kind : NodeKind
  links : Nat
  ownedByServer : Bool
  mode : Nat
  /-- Whether the server may open it. -/
  readable : Bool
  /-- Whether reading delivers as many bytes as `fstat` announces. -/
  intact : Bool
  content : Bytes
deriving DecidableEq

/-- The files, by the places they are at. -/
structure FileSystem where
  workingDirectory : Location
  files : Map Location FileNode

/-- Whether `open` fails with `EACCES` or for another reason. -/
inductive OpenError where
  | accessDenied
  | other
deriving DecidableEq

namespace FileSystem

section Files

variable (fs : FileSystem)

/-- The place a path denotes. -/
def locate (path : Path Bytes) : Location :=
  path.place fs.workingDirectory

/-- `::open(path, O_RDONLY | O_CLOEXEC | O_NOFOLLOW)`. -/
def openNoFollow (path : Path Bytes) : Except OpenError FileNode :=
  match fs.files.lookup (fs.locate path) with
  | none => .error .other
  | some node =>
    match node.kind with
    | .symlink _ => .error .other
    | .directory => if node.readable then .ok node else .error .accessDenied
    | .regular | .other =>
      -- a trailing separator asks for a directory
      if path.namesEntry = false then .error .other
      else if node.readable then .ok node else .error .accessDenied

/-- The mode of the regular file `::stat` finds at a path. -/
def statRegular (path : Path Bytes) : Option Nat :=
  match fs.files.lookup (fs.locate path) with
  | none => none
  | some node =>
    match node.kind with
    | .regular => if path.namesEntry then some node.mode else none
    | .symlink target => target
    | .directory | .other => none

def put (place : Location) (node : FileNode) : FileSystem :=
  { fs with files := fs.files.insert place node }

def isDirectory (path : Path Bytes) : Bool :=
  (fs.files.lookup (fs.locate path)).any fun node => node.kind = .directory

/-- `::rename` of a temporary regular file to a path. -/
def renameOnto (path : Path Bytes) (node : FileNode) : Option FileSystem :=
  if path.namesEntry = false ∨ fs.isDirectory path then none
  else some (fs.put (fs.locate path) node)

@[simp] theorem workingDirectory_put (place : Location) (node : FileNode) :
    (fs.put place node).workingDirectory = fs.workingDirectory := rfl

theorem lookup_put (place other : Location) (node : FileNode) :
    (fs.put place node).files.lookup other =
      if other = place then some node else fs.files.lookup other :=
  lookup_insert_eq_ite _ _ _ _

end Files

end FileSystem

/-- A regular file the server has just created with the given mode. -/
def createdFile (mode : Nat) (content : Bytes) : FileNode :=
  { kind := .regular, links := 1, ownedByServer := true, mode := mode,
    readable := true, intact := true, content := content }

/-! ## Reading -/

def maxPathBytes : Nat := 4096
def maxPolicyBytes : Nat := 1024 * 1024
def maxPskBytes : Nat := 64 * 1024

inductive FileKind where
  | policy
  | secret
deriving DecidableEq

namespace FileKind

def limit : FileKind → Nat
  | .policy => maxPolicyBytes
  | .secret => maxPskBytes

def description : FileKind → String
  | .policy => "client policy"
  | .secret => "client PSK"

def forbiddenMode : FileKind → Nat
  | .policy => 0o022
  | .secret => 0o077

def accessMessage : FileKind → String
  | .policy => "client policy file must be owned by the server user and not writable by others"
  | .secret => "client PSK file must be owned by the server user and inaccessible to others"

end FileKind

/-- The check both a configured path and the path handed to `open` pass. -/
def validPathText : Bool :=
  text ≠ [] ∧ text.length ≤ maxPathBytes ∧ (0 : UInt8) ∉ text

/-- The checks of `read_secure_file` on an open file, and its content. -/
def readNode (node : FileNode) (kind : FileKind) : Result Bytes :=
  if node.kind ≠ .regular ∨ node.links ≠ 1 then
    failure .permissionDenied (kind.description ++ " file must be one regular, non-linked file")
  else if node.ownedByServer = false ∨ node.mode &&& kind.forbiddenMode ≠ 0 then
    failure .permissionDenied kind.accessMessage
  else if node.content = [] ∨ kind.limit < node.content.length then
    failure .invalidArgument (kind.description ++ " file size is invalid")
  else if node.intact = false then
    failure .invalidArgument (kind.description ++ " file could not be read completely")
  else .ok node.content

def readSecureFile (fs : FileSystem) (text : Bytes) (kind : FileKind) : Result Bytes :=
  if validPathText text = false then
    failure .invalidArgument (kind.description ++ " path is invalid")
  else match fs.openNoFollow (pathOf text) with
    | .error .accessDenied =>
      failure .permissionDenied (kind.description ++ " file cannot be opened")
    | .error .other => failure .invalidArgument (kind.description ++ " file cannot be opened")
    | .ok node => readNode node kind

/-- Drop the line ends at the end of a key file. -/
def trimLineEnds (bytes : Bytes) : Bytes :=
  bytes.rdropWhile fun b => b = 10 ∨ b = 13

def loadPsk (fs : FileSystem) (configDirectory : Path Bytes) (configuredPath : Bytes) :
    Result Bytes :=
  if validPathText configuredPath = false then
    failure .invalidArgument "psk_file path is invalid"
  else match readSecureFile fs (normalText (configDirectory.join (pathOf configuredPath)))
      .secret with
    | .error e => .error e
    | .ok bytes =>
      if trimLineEnds bytes = [] then
        failure .invalidArgument "client PSK file contains an empty secret"
      else .ok (trimLineEnds bytes)

/-! ## Writing -/

/-- The system call of an atomic write that fails. -/
inductive WriteFault where
  | createTemporary
  | setMode
  | writeBytes
  | replaceFile
deriving DecidableEq

def writeSecretFileAtomic (fs : FileSystem) (directory : Path Bytes) (filename secret : Bytes)
    (fault : Option WriteFault) : Result FileSystem :=
  if secret = [] ∨ maxPskBytes < secret.length ∨ (0 : UInt8) ∈ secret then
    failure .invalidArgument "PSK content is invalid"
  else if filename = [] ∨ (47 : UInt8) ∈ filename ∨ (0 : UInt8) ∈ filename then
    failure .invalidArgument "PSK file name is invalid"
  else match fault with
    | some .createTemporary => failure .permissionDenied "policy directory is not writable"
    | some .setMode => failure .permissionDenied "PSK file mode cannot be applied"
    | some .writeBytes => failure .internalError "PSK file write failed"
    | some .replaceFile => failure .internalError "PSK file replacement failed"
    | none =>
      match fs.renameOnto (directory.join (pathOf filename))
          (createdFile 0o600 (secret ++ [10])) with
      | none => failure .internalError "PSK file replacement failed"
      | some written => .ok written

def writeSecureFileAtomic (fs : FileSystem) (text bytes : Bytes) (fault : Option WriteFault) :
    Result FileSystem :=
  if bytes = [] then failure .invalidArgument "refusing to write an empty policy file"
  else match fault with
    | some .createTemporary => failure .permissionDenied "policy directory is not writable"
    | some .setMode => failure .permissionDenied "policy file ownership cannot be preserved"
    | some .writeBytes => failure .internalError "policy file write failed"
    | some .replaceFile => failure .internalError "policy file replacement failed"
    | none =>
      let mode := match fs.statRegular (pathOf text) with
        | none => 0o600
        | some mode => mode &&& 0o777
      match fs.renameOnto (pathOf text) (createdFile mode bytes) with
      | none => failure .internalError "policy file replacement failed"
      | some written => .ok written

/-! ## What reading depends on -/

/-- The directory a policy document stands in. -/
def configDirectory (configPath : Bytes) : Path Bytes :=
  (pathOf configPath).parentPath

/-- The place of a configured key file. -/
def pskLocation (fs : FileSystem) (directory : Path Bytes) (configuredPath : Bytes) : Location :=
  fs.locate (directory.join (pathOf configuredPath))

/-- A path as it can be read from a text. -/
def WellSpelled (path : Path Bytes) : Prop :=
  ∀ c ∈ path.components, Spelled 47 46 c

theorem wellSpelled_pathOf : WellSpelled (pathOf text) :=
  spelled_ofText (by decide) text

theorem wellSpelled_configDirectory (configPath : Bytes) :
    WellSpelled (configDirectory configPath) :=
  fun c hc => wellSpelled_pathOf configPath c (List.dropLast_subset _ hc)

theorem WellSpelled.join {p q : Path Bytes} (hp : WellSpelled p) (hq : WellSpelled q) :
    WellSpelled (p.join q) := by
  unfold Path.join
  split
  · exact hq
  · exact fun c hc => (List.mem_append.1 hc).elim (hp c) (hq c)

variable {path dir : Path Bytes} {fs : FileSystem} {node : FileNode} {sec : Bytes}

/-- The text `load_psk` opens leads to the place the configured path denotes. -/
theorem same_normalText (h : WellSpelled path) : (pathOf (normalText path)).Same path :=
  same_text_normal (by decide) h

theorem FileSystem.openNoFollow_congr (fs : FileSystem) {p q : Path Bytes} (h : p.Same q) :
    fs.openNoFollow p = fs.openNoFollow q := by
  unfold FileSystem.openNoFollow FileSystem.locate
  rw [h.place_eq, h.namesEntry_eq]

theorem FileSystem.openNoFollow_frame {fs' : FileSystem}
    (hdir : fs'.workingDirectory = fs.workingDirectory)
    (hn : fs'.files.lookup (fs.locate path) = fs.files.lookup (fs.locate path)) :
    fs'.openNoFollow path = fs.openNoFollow path := by
  unfold FileSystem.openNoFollow
  rw [show fs'.locate path = fs.locate path by unfold FileSystem.locate; rw [hdir], hn]

theorem FileSystem.openNoFollow_ok (h : fs.openNoFollow path = .ok node) :
    fs.files.lookup (fs.locate path) = some node := by
  unfold FileSystem.openNoFollow at h
  split at h
  · cases h
  · next found hf =>
    rw [hf]
    split at h
    · cases h
    · split at h <;> cases h; rfl
    · split at h
      · cases h
      · split at h <;> cases h; rfl
    · split at h
      · cases h
      · split at h <;> cases h; rfl

theorem readNode_ok {kind : FileKind} {bytes : Bytes} (h : readNode node kind = .ok bytes) :
    bytes = node.content := by
  unfold readNode at h
  repeat' split at h
  all_goals cases h
  rfl

theorem readSecureFile_ok {text bytes : Bytes} {kind : FileKind}
    (h : readSecureFile fs text kind = .ok bytes) :
    ∃ node, fs.openNoFollow (pathOf text) = .ok node ∧ bytes = node.content := by
  unfold readSecureFile at h
  split at h
  · cases h
  · split at h
    · cases h
    · cases h
    · next node hop => exact ⟨node, hop, readNode_ok h⟩

theorem loadPsk_frame {fs' : FileSystem} {cfg : Bytes}
    (hsp : WellSpelled dir) (hdir : fs'.workingDirectory = fs.workingDirectory)
    (hn : fs'.files.lookup (pskLocation fs dir cfg) =
      fs.files.lookup (pskLocation fs dir cfg)) :
    loadPsk fs' dir cfg = loadPsk fs dir cfg := by
  have hs := same_normalText (hsp.join (wellSpelled_pathOf cfg))
  have hop := FileSystem.openNoFollow_frame hdir hn
  unfold loadPsk readSecureFile
  rw [fs'.openNoFollow_congr hs, fs.openNoFollow_congr hs, hop]

theorem loadPsk_ok {cfg : Bytes} (hsp : WellSpelled dir) (h : loadPsk fs dir cfg = .ok sec) :
    ∃ node, fs.files.lookup (pskLocation fs dir cfg) = some node ∧
      sec = trimLineEnds node.content := by
  have hs := same_normalText (hsp.join (wellSpelled_pathOf cfg))
  unfold loadPsk at h
  split at h
  · cases h
  · split at h
    · cases h
    · next bytes hr =>
      obtain ⟨node, hop, hby⟩ := readSecureFile_ok hr
      rw [fs.openNoFollow_congr hs] at hop
      refine ⟨node, FileSystem.openNoFollow_ok hop, ?_⟩
      split at h
      · cases h
      · cases h
        rw [hby]

theorem trimLineEnds_concat (sec : Bytes) : trimLineEnds (sec ++ [10]) = trimLineEnds sec :=
  List.rdropWhile_concat_pos _ _ _ (by decide)

theorem trimLineEnds_eq_self_iff :
    trimLineEnds sec = sec ↔ ∀ b, sec.getLast? = some b → b ≠ 10 ∧ b ≠ 13 := by
  rw [trimLineEnds, List.rdropWhile_eq_self_iff]
  constructor
  · intro h b hb
    obtain ⟨rest, rfl⟩ := List.getLast?_eq_some_iff.1 hb
    simpa using h (by simp)
  · intro h hne
    simpa using h _ (List.getLast?_eq_some_getLast hne)

/-! ## What writing changes -/

theorem FileSystem.renameOnto_eq_some (h : fs.renameOnto path node = some written) :
    written = fs.put (fs.locate path) node := by
  unfold FileSystem.renameOnto at h
  split at h
  · cases h
  · exact (Option.some.inj h).symm

variable {flt : Option WriteFault}

theorem writeSecretFileAtomic_ok {filename : Bytes}
    (h : writeSecretFileAtomic fs dir filename sec flt = .ok written) :
    written = fs.put (pskLocation fs dir filename) (createdFile 0o600 (sec ++ [10])) := by
  unfold writeSecretFileAtomic at h
  repeat' split at h
  all_goals cases h
  next hr => exact FileSystem.renameOnto_eq_some hr

theorem writeSecureFileAtomic_ok {text bytes : Bytes}
    (h : writeSecureFileAtomic fs text bytes flt = .ok written) :
    ∃ mode, written = fs.put (fs.locate (pathOf text)) (createdFile mode bytes) := by
  unfold writeSecureFileAtomic at h
  split at h
  · cases h
  · split at h
    any_goals cases h
    simp only at h
    generalize (match fs.statRegular (pathOf text) with
      | none => 0o600
      | some mode => mode &&& 0o777) = mode at h
    split at h
    · cases h
    · next hr =>
      cases h
      exact ⟨mode, FileSystem.renameOnto_eq_some hr⟩

end MiniTun.Server
