import YunXi.Program.Checked
import YunXi.Program.Fallible
import YunXi.Program.SortedMap
import YunXi.Settings.Capabilities

/-!
# The settings store

Versioned capability and plugin settings with their document on disk.  A write renames the
old document to a backup, puts the new one in its place and removes the backup; loading
falls back to the backup when the document itself cannot be used.
-/

namespace YunXi
namespace Settings

open Fallible
open Protocol (Value)

def maxSettingsFileBytes : Nat := 64 * 1024
def maxPluginIdBytes : Nat := 128
def maxPluginOverrides : Nat := 256
def settingsDocumentVersion : Nat := 1

inductive CapabilitySettingsError
  | conflict (expected current : UInt64)
  | invalidSection (message : String)
  | invalidPluginSection (message : String)
  | invalidPluginId (id : String)
  | tooManyPluginOverrides (count maximum : Nat)
  | invalidDocument (path message : String)
  | unsupportedVersion (path : String) (version : Nat)
  | tooLarge (path : String) (maximum : Nat)
  | revisionExhausted
  | io (path source : String)
  deriving DecidableEq

/-- `fmt::Display for CapabilitySettingsError`. -/
def CapabilitySettingsError.display : CapabilitySettingsError → String
  | conflict expected current =>
      "settings revision conflict: expected " ++ toString expected ++ ", current " ++
        toString current
  | invalidSection message => message
  | invalidPluginSection message => message
  | invalidPluginId id => "invalid plugin id `" ++ id ++ "` in settings"
  | tooManyPluginOverrides count maximum =>
      "settings contain " ++ toString count ++ " plugin overrides; maximum is " ++
        toString maximum
  | invalidDocument path message => "invalid settings document " ++ path ++ ": " ++ message
  | unsupportedVersion path version =>
      "settings document " ++ path ++ " uses unsupported version " ++ toString version
  | tooLarge path maximum =>
      "settings document " ++ path ++ " exceeds " ++ toString maximum ++ " bytes"
  | revisionExhausted => "settings revision is exhausted"
  | io path source => "settings I/O failed at " ++ path ++ ": " ++ source

/-- Characters of a plugin id: printable ASCII without white space. -/
def pluginIdCharacter (character : Char) : Bool :=
  32 < character.toNat && character.toNat < 127

/-- `validate_plugin_id`. -/
def validatePluginId (id : String) : Except CapabilitySettingsError Unit :=
  refuseIf (id = "" ∨ id.utf8ByteSize > maxPluginIdBytes ∨
    ¬ id.toList.all pluginIdCharacter) (.invalidPluginId id)

/-- `validate_plugin_overrides`. -/
def validatePluginOverrides (plugins : SortedMap String Bool) :
    Except CapabilitySettingsError Unit := do
  refuseIf (plugins.size > maxPluginOverrides)
    (.tooManyPluginOverrides plugins.size maxPluginOverrides)
  checkAll validatePluginId plugins.keys

theorem validatePluginOverrides_eq_ok {plugins : SortedMap String Bool} :
    validatePluginOverrides plugins = .ok () ↔
      plugins.size ≤ maxPluginOverrides ∧
        ∀ id ∈ plugins.keys, validatePluginId id = .ok () := by
  unfold validatePluginOverrides
  simp [checkAll_eq_ok]

/-- Overrides a store may hold: few enough, and each with a valid id. -/
structure PluginOverrides where
  plugins : SortedMap String Bool
  valid : validatePluginOverrides plugins = .ok ()
  deriving DecidableEq

variable (overrides : PluginOverrides)

namespace PluginOverrides

def empty : PluginOverrides where
  plugins := .empty
  valid := validatePluginOverrides_eq_ok.mpr ⟨Nat.zero_le _, fun _ member => nomatch member⟩

/-- Accept overrides that pass their check. -/
def new (plugins : SortedMap String Bool) : Except CapabilitySettingsError PluginOverrides :=
  construct (validatePluginOverrides plugins) fun valid => ⟨plugins, valid⟩

/-- Set one plugin while there is room for it. -/
def set (id : String) (enabled : Bool)
    (validId : validatePluginId id = .ok ())
    (room : id ∈ overrides.plugins.keys ∨ overrides.plugins.size < maxPluginOverrides) :
    PluginOverrides where
  plugins := overrides.plugins.insert id enabled
  valid := by
    obtain ⟨fits, validIds⟩ := validatePluginOverrides_eq_ok.mp overrides.valid
    refine validatePluginOverrides_eq_ok.mpr ⟨?_, ?_⟩
    · rcases room with known | fresh
      · rw [SortedMap.size_insert_of_mem known]
        exact fits
      · exact (SortedMap.size_insert_le _ _ _).trans fresh
    · intro other member
      rcases SortedMap.mem_keys_insert member with rfl | earlier
      · exact validId
      · exact validIds other earlier

def unset (id : String) : PluginOverrides where
  plugins := overrides.plugins.erase id
  valid := by
    obtain ⟨fits, validIds⟩ := validatePluginOverrides_eq_ok.mp overrides.valid
    refine validatePluginOverrides_eq_ok.mpr ⟨(SortedMap.size_erase_le _ _).trans fits, ?_⟩
    intro other member
    exact validIds other (SortedMap.mem_keys_erase member)

def toJson : Value :=
  .object (overrides.plugins.entries.map fun entry => (entry.1, .bool entry.2))

end PluginOverrides

inductive CapabilityEdit
  | set (setting : CapabilitySetting) (value : Bool)
  | unset (setting : CapabilitySetting)
  deriving DecidableEq

inductive PluginEdit
  | set (id : String) (enabled : Bool)
  | unset (id : String)
  deriving DecidableEq

/-- `CapabilitySettingsStore::parse_section`. -/
def parseSection (value : Value) : Except CapabilitySettingsError CapabilityOverrides :=
  match value with
  | .object members =>
      (CapabilityOverrides.fromMembers members).mapError fun error =>
        .invalidSection ("capability settings section is invalid: " ++ error)
  | _ => .error (.invalidSection "capability settings section must be an object")

/-- The switches of an object that holds nothing else. -/
def pluginSwitches : List (String × Value) → Option (List (String × Bool))
  | [] => some []
  | (id, .bool enabled) :: rest => (pluginSwitches rest).map ((id, enabled) :: ·)
  | _ :: _ => none

/-- `CapabilitySettingsStore::parse_plugins`. -/
def parsePlugins (value : Value) :
    Except CapabilitySettingsError (SortedMap String Bool) :=
  match value with
  | .object members =>
      match pluginSwitches members with
      | some switches => do
          validatePluginOverrides (.ofList switches)
          return .ofList switches
      | none => .error (.invalidPluginSection "plugin settings section is invalid")
  | _ => .error (.invalidPluginSection "plugin settings section must be an object")

structure SettingsDocument where
  version : Nat
  revision : UInt64
  capabilities : CapabilityOverrides
  plugins : SortedMap String Bool
  deriving DecidableEq

def SettingsDocument.toJson (document : SettingsDocument) : Value :=
  .object ([("version", .ofNat document.version),
    ("revision", .ofNat document.revision.toNat),
    ("capabilities", .object (document.capabilities.members CapabilitySetting.all))] ++
    if document.plugins.entries.isEmpty then []
    else [("plugins",
      .object (document.plugins.entries.map fun entry => (entry.1, .bool entry.2)))])

/-- What is written to disk: the pretty JSON text and a line feed. -/
def SettingsDocument.content (document : SettingsDocument) : String :=
  String.ofList document.toJson.writePretty ++ "\n"

/-- The settings document and its backup; a file that is missing is absent here. -/
structure SettingsDisk where
  main : Option ByteArray
  backup : Option ByteArray

/-- `backup_path` of a path that ends in `settings.json`. -/
def backupPath (path : String) : String := path ++ ".bak"

/-- The JSON library reading a document from the bytes of a file. -/
abbrev ParseDocument := ByteArray → Except String SettingsDocument

/-- `load_document`. -/
def loadDocument (parse : ParseDocument) (path : String) :
    Option ByteArray → Except CapabilitySettingsError (Option SettingsDocument)
  | none => .ok none
  | some content => do
      refuseIf (content.size > maxSettingsFileBytes) (.tooLarge path maxSettingsFileBytes)
      let document ← (parse content).mapError (.invalidDocument path)
      validatePluginOverrides document.plugins
      refuseIf (document.version ≠ settingsDocumentVersion)
        (.unsupportedVersion path document.version)
      return some document

structure CapabilitySettingsStore where
  path : String
  overrides : CapabilityOverrides
  pluginOverrides : PluginOverrides
  revision : UInt64
  warnings : List String
  deriving DecidableEq

namespace CapabilitySettingsStore

def empty (path : String) (warnings : List String) : CapabilitySettingsStore :=
  ⟨path, .empty, .empty, 0, warnings⟩

/-- The store of a document that was loaded. -/
def fromDocument (path : String) (document : SettingsDocument) (plugins : PluginOverrides)
    (warnings : List String) : CapabilitySettingsStore :=
  ⟨path, document.capabilities, plugins, document.revision, warnings⟩

/-- A document that can be used, with its plugin overrides. -/
def loadUsable (parse : ParseDocument) (path : String) (file : Option ByteArray) :
    Except CapabilitySettingsError (Option (SettingsDocument × PluginOverrides)) := do
  match ← loadDocument parse path file with
  | none => return none
  | some document =>
      let plugins ← PluginOverrides.new document.plugins
      return some (document, plugins)

/-- `CapabilitySettingsStore::load`. -/
def load (parse : ParseDocument) (path : String) (disk : SettingsDisk) :
    CapabilitySettingsStore :=
  match loadUsable parse path disk.main with
  | .ok (some (document, plugins)) => fromDocument path document plugins []
  | .ok none => loadBackup []
  | .error error => loadBackup [error.display]
where
  /-- Fall back to the backup, after what went wrong with the document. -/
  loadBackup (warnings : List String) : CapabilitySettingsStore :=
    match loadUsable parse (backupPath path) disk.backup with
    | .ok (some (document, plugins)) =>
        fromDocument path document plugins
          (warnings ++ ["capability settings recovered from an interrupted-write backup"])
    | .ok none => empty path warnings
    | .error error => empty path (warnings ++ [error.display])

end CapabilitySettingsStore

/-- `replace_file` where every file operation works. -/
def SettingsDisk.replaceFile (disk : SettingsDisk) (content : ByteArray) : SettingsDisk :=
  -- the old document becomes the backup, in place of an older one
  let renamed : SettingsDisk := match disk.main with
    | some old => { disk with main := none, backup := some old }
    | none => disk
  let written : SettingsDisk := { renamed with main := some content }
  -- the backup is removed, wherever it came from
  { written with backup := none }

/-- Programs on a store and its files. -/
abbrev StoreProgram := Fallible (CapabilitySettingsStore × SettingsDisk) CapabilitySettingsError

namespace CapabilitySettingsStore

/-- A way to replace the file under a path: what it returns, and the files it leaves. -/
abbrev Writer := String → ByteArray → SettingsDisk →
  Except CapabilitySettingsError Unit × SettingsDisk

/-- What can go wrong while a file is replaced: an error, and the files it leaves behind. -/
abbrev WriteFault := Option (String × SettingsDisk)

def WriteFault.writer (fault : WriteFault) : Writer := fun path content disk =>
  match fault with
  | some (source, left) => (.error (.io path source), left)
  | none => (.ok (), disk.replaceFile content)

/-- `check_revision`. -/
def checkRevision (expected : Option UInt64) : StoreProgram Unit := do
  let (store, _) ← get
  match expected with
  | some expected =>
      throwIf (expected ≠ store.revision) (.conflict expected store.revision)
  | none => return ()

/-- `replace_file` as the store calls it. -/
def replaceFile (write : Writer) (content : String) : StoreProgram Unit :=
  ofFunction fun (store, disk) =>
    let (result, left) := write store.path content.toUTF8 disk
    (result, store, left)

/-- `commit`. -/
def commit (write : Writer) (next : CapabilityOverrides) (nextPlugins : PluginOverrides) :
    StoreProgram Bool := do
  let (store, _) ← get
  if next = store.overrides ∧ nextPlugins = store.pluginOverrides then return false
  else do
    throwIf (store.revision.toNat + 1 = UInt64.size) .revisionExhausted
    let document : SettingsDocument :=
      ⟨settingsDocumentVersion, store.revision + 1, next, nextPlugins.plugins⟩
    throwIf (document.content.utf8ByteSize > maxSettingsFileBytes)
      (.tooLarge store.path maxSettingsFileBytes)
    replaceFile write document.content
    modify fun (store, disk) =>
      ({ store with
          overrides := next
          pluginOverrides := nextPlugins
          revision := store.revision + 1 }, disk)
    return true

variable (write : Writer)

def update (patch : CapabilityOverrides) (expectedRevision : Option UInt64) :
    StoreProgram Bool := do
  checkRevision expectedRevision
  let (store, _) ← get
  commit write (store.overrides.merge patch) store.pluginOverrides

def replace (replacement : CapabilityOverrides) (expectedRevision : Option UInt64) :
    StoreProgram Bool := do
  checkRevision expectedRevision
  let (store, _) ← get
  commit write replacement store.pluginOverrides

def applyEdit (overrides : CapabilityOverrides) : CapabilityEdit → CapabilityOverrides
  | .set setting value => overrides.set setting value
  | .unset setting => overrides.unset setting

def mutate (edits : List CapabilityEdit) (expectedRevision : Option UInt64) :
    StoreProgram Bool := do
  checkRevision expectedRevision
  let (store, _) ← get
  commit write (edits.foldl applyEdit store.overrides) store.pluginOverrides

def updatePlugins (patch : SortedMap String Bool) (expectedRevision : Option UInt64) :
    StoreProgram Bool := do
  checkRevision expectedRevision
  Fallible.ofExcept (validatePluginOverrides patch)
  let (store, _) ← get
  let next ← Fallible.ofExcept
    (PluginOverrides.new (store.pluginOverrides.plugins.extend patch.entries))
  commit write store.overrides next

def replacePlugins (plugins : SortedMap String Bool) (expectedRevision : Option UInt64) :
    StoreProgram Bool := do
  checkRevision expectedRevision
  let next ← Fallible.ofExcept (PluginOverrides.new plugins)
  let (store, _) ← get
  commit write store.overrides next

/-- One edit of `mutate_plugins`. -/
def applyPluginEdit : PluginEdit → Except CapabilitySettingsError PluginOverrides
  | .set id enabled =>
      if validId : validatePluginId id = .ok () then
        if room : id ∈ overrides.plugins.keys ∨ overrides.plugins.size < maxPluginOverrides then
          .ok (overrides.set id enabled validId room)
        else .error (.tooManyPluginOverrides (overrides.plugins.size + 1) maxPluginOverrides)
      else .error (.invalidPluginId id)
  | .unset id => do
      validatePluginId id
      return overrides.unset id

def mutatePlugins (edits : List PluginEdit) (expectedRevision : Option UInt64) :
    StoreProgram Bool := do
  checkRevision expectedRevision
  let (store, _) ← get
  let next ← Fallible.ofExcept (edits.foldlM applyPluginEdit store.pluginOverrides)
  commit write store.overrides next

def setPlugin (id : String) (enabled : Bool) (expectedRevision : Option UInt64) :
    StoreProgram Bool :=
  mutatePlugins write [.set id enabled] expectedRevision

def unsetPlugin (id : String) (expectedRevision : Option UInt64) : StoreProgram Bool :=
  mutatePlugins write [.unset id] expectedRevision

end CapabilitySettingsStore

end Settings
end YunXi
