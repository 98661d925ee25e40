import YunXi.Settings.Store

/-!
# What an edit asks for

The entry points of the store as edits of what it holds: the settings that an operation has to
leave, given capability by capability and plugin by plugin.
-/

namespace YunXi
namespace Settings

/-- The entry points that write, with their arguments. -/
inductive StoreOperation
  | update (patch : CapabilityOverrides)
  | replace (replacement : CapabilityOverrides)
  | mutate (edits : List CapabilityEdit)
  | setPlugin (id : String) (enabled : Bool)
  | unsetPlugin (id : String)
  | updatePlugins (patch : SortedMap String Bool)
  | replacePlugins (plugins : SortedMap String Bool)
  | mutatePlugins (edits : List PluginEdit)

/-- The capability that an edit names, with what it is set to. -/
def CapabilityEdit.assignment :
    CapabilityEdit → CapabilitySetting × Option Bool
  | .set setting value => (setting, some value)
  | .unset setting => (setting, none)

/-- The plugin that an edit names, with what it is set to. -/
def PluginEdit.assignment : PluginEdit → String × Option Bool
  | .set id enabled => (id, some enabled)
  | .unset id => (id, none)

/-- Assignments that are made one after the other. -/
def assign {κ : Type} [DecidableEq κ]
    (before : κ → Option Bool)
    (assignments : List (κ × Option Bool)) : κ → Option Bool :=
  assignments.foldl
    (fun current next => Function.update current next.1 next.2) before

namespace StoreOperation

/-- The capability settings that an operation has to leave. -/
def capabilities
    (before : CapabilitySetting → Option Bool) :
    StoreOperation → CapabilitySetting → Option Bool
  | update patch => fun setting => (patch.get setting).or (before setting)
  | replace replacement => replacement.get
  | mutate edits => assign before (edits.map CapabilityEdit.assignment)
  | _ => before

/-- The plugin switches that an operation has to leave. -/
def plugins (before : String → Option Bool) :
    StoreOperation → String → Option Bool
  | setPlugin id enabled => assign before [(id, some enabled)]
  | unsetPlugin id => assign before [(id, none)]
  | updatePlugins patch => fun id => (patch.lookup? id).or (before id)
  | replacePlugins plugins => plugins.lookup?
  | mutatePlugins edits => assign before (edits.map PluginEdit.assignment)
  | _ => before

/-- The operation makes the second settings of the first ones. -/
structure Makes
    (operation : StoreOperation)
    (overrides : CapabilityOverrides)
    (pluginOverrides : PluginOverrides)
    (next : CapabilityOverrides)
    (nextPlugins : PluginOverrides) : Prop where
  capabilities : next.get = operation.capabilities overrides.get
  plugins : nextPlugins.plugins.lookup? =
    operation.plugins pluginOverrides.plugins.lookup?

end StoreOperation

/-- A change of one entry is an assignment. -/
theorem lookup?_insert_eq_update
    (map : SortedMap String Bool)
    (id : String)
    (enabled : Bool) :
    (map.insert id enabled).lookup? =
      Function.update map.lookup? id (some enabled) := by
  funext other
  by_cases same : other = id
  · rw [same, SortedMap.lookup?_insert_self, Function.update_self]
  · rw [SortedMap.lookup?_insert_of_ne _ same, Function.update_of_ne same]

/-- Taking an entry out is an assignment. -/
theorem lookup?_erase_eq_update
    (map : SortedMap String Bool)
    (id : String) :
    (map.erase id).lookup? = Function.update map.lookup? id none := by
  funext other
  by_cases same : other = id
  · rw [same, SortedMap.lookup?_erase_self, Function.update_self]
  · rw [SortedMap.lookup?_erase_of_ne _ same, Function.update_of_ne same]

namespace CapabilitySettingsStore

/-- The edits of `mutate` are assignments. -/
theorem get_applyEdits
    (edits : List CapabilityEdit)
    (overrides : CapabilityOverrides) :
    (edits.foldl applyEdit overrides).get =
      assign overrides.get (edits.map CapabilityEdit.assignment) := by
  induction edits generalizing overrides with
  | nil => rfl
  | cons edit rest ih =>
      rw [List.foldl_cons, ih]
      cases edit <;> rfl

/-- An accepted edit of a plugin is an assignment. -/
theorem lookup?_applyPluginEdit
    {overrides next : PluginOverrides}
    {edit : PluginEdit}
    (applied : applyPluginEdit overrides edit = .ok next) :
    next.plugins.lookup? = Function.update overrides.plugins.lookup?
      edit.assignment.1 edit.assignment.2 := by
  unfold applyPluginEdit at applied
  cases edit with
  | set id enabled =>
      dsimp only at applied
      split at applied
      · split at applied
        · cases applied
          exact lookup?_insert_eq_update _ id enabled
        · cases applied
      · cases applied
  | unset id =>
      obtain ⟨_, -, made⟩ := Except.bind_eq_ok.mp applied
      cases made
      exact lookup?_erase_eq_update _ id

/-- The edits of `mutate_plugins` are assignments. -/
theorem lookup?_applyPluginEdits
    {edits : List PluginEdit}
    {overrides next : PluginOverrides}
    (applied : edits.foldlM applyPluginEdit overrides = .ok next) :
    next.plugins.lookup? = assign overrides.plugins.lookup?
      (edits.map PluginEdit.assignment) := by
  induction edits generalizing overrides with
  | nil =>
      cases applied
      rfl
  | cons edit rest ih =>
      rw [List.foldlM_cons] at applied
      obtain ⟨middle, first, later⟩ := Except.bind_eq_ok.mp applied
      rw [ih later, lookup?_applyPluginEdit first]
      rfl

end CapabilitySettingsStore
end Settings
end YunXi
