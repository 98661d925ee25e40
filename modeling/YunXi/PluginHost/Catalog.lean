import YunXi.Protocol.Capability
import YunXi.Kernel.Plugin
import YunXi.Program.SortedMap
import YunXi.Program.Fallible
import YunXi.Program.Run
import Mathlib.Data.List.Nodup

/-!
# The catalog of capabilities

The catalog holds the registered plugins, and beside them an index of the providers of each
capability.  The index knows no versions: a plugin is routed to by the versions in its record.
-/

namespace YunXi
namespace PluginHost

open Fallible
open Kernel (PluginId PluginIdError)
open Protocol (CapabilityId CapabilityDescriptor)

/-- A record, without the manifest that it carries along. -/
structure PluginRecord where
  id : PluginId
  displayName : String
  version : String
  capabilities : List CapabilityDescriptor

/-- What the catalog reads of a connection. -/
structure PluginConnectionInfo where
  pluginId : String
  displayName : String
  pluginVersion : String
  capabilities : List CapabilityDescriptor

inductive CatalogError
  | invalidPluginId (error : PluginIdError)
  | duplicatePlugin (id : PluginId)
  | duplicateCapability (pluginId : PluginId) (capability : CapabilityId)
  | missingCapability (capability : String) (version : UInt32)
  | ambiguousCapability (capability : String) (version : UInt32) (providers : List PluginId)

/-- A set of plugins. -/
abbrev PluginSet := SortedMap PluginId Unit

structure CapabilityCatalog where
  plugins : SortedMap PluginId PluginRecord
  providers : SortedMap CapabilityId PluginSet

/-- The first capability that comes a second time. -/
def firstRepeated (seen : List CapabilityId) : List CapabilityDescriptor → Option CapabilityId
  | [] => none
  | capability :: rest =>
      if capability.id ∈ seen then some capability.id
      else firstRepeated (capability.id :: seen) rest

variable (catalog : CapabilityCatalog)

variable (capability : String)

variable (id : PluginId)

variable (providers : SortedMap CapabilityId PluginSet)

namespace CapabilityCatalog

def new : CapabilityCatalog := ⟨.empty, .empty⟩

/-- `providers.entry(capability).or_default().insert(id)`. -/
def addProvider (capability : CapabilityDescriptor) : SortedMap CapabilityId PluginSet :=
  providers.insert capability.id
    (((providers.lookup? capability.id).getD .empty).insert id ())

/-- Take a provider from the index, and its set when it was the last one. -/
def removeProvider (capability : CapabilityDescriptor) : SortedMap CapabilityId PluginSet :=
  match providers.lookup? capability.id with
  | some set =>
      let left := set.erase id
      if left.size = 0 then providers.erase capability.id
      else providers.insert capability.id left
  | none => providers

/-- `register_with_manifest`. -/
def register (displayName version : String)
    (capabilities : List CapabilityDescriptor) : Fallible CapabilityCatalog CatalogError Unit := do
  let catalog ← get
  throwIf (id ∈ catalog.plugins.keys) (.duplicatePlugin id)
  match firstRepeated [] capabilities with
  | some capability => throw (.duplicateCapability id capability)
  | none => do
      modify fun catalog =>
        { catalog with providers := capabilities.foldl (addProvider id) catalog.providers }
      modify fun catalog =>
        { catalog with
          plugins := catalog.plugins.insert id ⟨id, displayName, version, capabilities⟩ }

/-- `register_connection`. -/
def registerConnection (connection : PluginConnectionInfo) :
    Fallible CapabilityCatalog CatalogError PluginId := do
  let id ← Fallible.ofExcept ((PluginId.new connection.pluginId).mapError .invalidPluginId)
  register id connection.displayName connection.pluginVersion connection.capabilities
  return id

/-- `unregister`. -/
def unregister : Option PluginRecord × CapabilityCatalog :=
  match catalog.plugins.lookup? id with
  | none => (none, catalog)
  | some record =>
      (some record, {
        plugins := catalog.plugins.erase id
        providers := record.capabilities.foldl (removeProvider id) catalog.providers })

/-- The set of the index under a text. -/
def indexed : PluginSet :=
  ((catalog.providers.entries.find? fun entry => entry.1.text = capability).map Prod.snd).getD
    .empty

/-- `providers`. -/
def providersOf (version : UInt32) :
    List PluginRecord :=
  ((catalog.indexed capability).keys.filterMap catalog.plugins.lookup?).filter fun plugin =>
    plugin.capabilities.any fun descriptor =>
      descriptor.id.text = capability ∧ descriptor.version = version

/-- `resolve_unique`. -/
def resolveUnique (version : UInt32) :
    Except CatalogError PluginRecord :=
  match catalog.providersOf capability version with
  | [] => .error (.missingCapability capability version)
  | [provider] => .ok provider
  | providers =>
      .error (.ambiguousCapability capability version (providers.map PluginRecord.id))

end CapabilityCatalog

namespace CapabilityCatalog

/-- Whether a plugin is in the set of a capability. -/
def provides (capability : CapabilityId)
    (id : PluginId) : Option Unit :=
  (providers.lookup? capability).bind fun set => set.lookup? id

/-- A set without a plugin, unless nothing is left of it. -/
def without (set : PluginSet) : Option PluginSet :=
  if (set.erase id).size = 0 then none else some (set.erase id)

variable {capabilities : List CapabilityDescriptor}

section Index

variable (id : PluginId) (providers : SortedMap CapabilityId PluginSet)

/-- What is found in the index after the capabilities of a plugin were added. -/
theorem lookup?_addProviders (capabilities : List CapabilityDescriptor)
    (capability : CapabilityId) :
    (capabilities.foldl (addProvider id) providers).lookup? capability =
      if capability ∈ capabilities.map CapabilityDescriptor.id then
        some (((providers.lookup? capability).getD .empty).insert id ())
      else providers.lookup? capability := by
  induction capabilities generalizing providers with
  | nil => rfl
  | cons first rest ih =>
      rw [List.foldl_cons, ih, List.map_cons]
      unfold addProvider
      by_cases here : capability = first.id
      · subst here
        rw [SortedMap.lookup?_insert_self, Option.getD_some, SortedMap.insert_insert, ite_self,
          if_pos List.mem_cons_self]
      · rw [SortedMap.lookup?_insert_of_ne _ here]
        by_cases later : capability ∈ rest.map CapabilityDescriptor.id
        · rw [if_pos later, if_pos (List.mem_cons_of_mem _ later)]
        · rw [if_neg later, if_neg (List.not_mem_cons_of_ne_of_not_mem here later)]

theorem lookup?_removeProvider (descriptor : CapabilityDescriptor) (capability : CapabilityId) :
    (removeProvider id providers descriptor).lookup? capability =
      if capability = descriptor.id then (providers.lookup? capability).bind (without id)
      else providers.lookup? capability := by
  unfold removeProvider without
  by_cases here : capability = descriptor.id
  · rw [if_pos here, here]
    cases found : providers.lookup? descriptor.id with
    | none => exact found
    | some set =>
        dsimp only [Option.bind_some]
        by_cases last : (set.erase id).size = 0
        · rw [if_pos last, if_pos last, SortedMap.lookup?_erase_self]
        · rw [if_neg last, if_neg last, SortedMap.lookup?_insert_self]
  · rw [if_neg here]
    split
    · dsimp only
      split
      · exact SortedMap.lookup?_erase_of_ne _ here
      · exact SortedMap.lookup?_insert_of_ne _ here _
    · rfl

/-- What is found in the index after the capabilities of a plugin were removed. -/
theorem lookup?_removeProviders
    (distinct : (capabilities.map CapabilityDescriptor.id).Nodup) (capability : CapabilityId) :
    (capabilities.foldl (removeProvider id) providers).lookup? capability =
      if capability ∈ capabilities.map CapabilityDescriptor.id then
        (providers.lookup? capability).bind (without id)
      else providers.lookup? capability := by
  induction capabilities generalizing providers with
  | nil => rfl
  | cons first rest ih =>
      rw [List.map_cons] at distinct ⊢
      obtain ⟨fresh, restDistinct⟩ := List.nodup_cons.mp distinct
      rw [List.foldl_cons, ih _ restDistinct, lookup?_removeProvider]
      by_cases here : capability = first.id
      · rw [if_pos here, here, if_neg fresh, if_pos List.mem_cons_self]
      · rw [if_neg here]
        by_cases later : capability ∈ rest.map CapabilityDescriptor.id
        · rw [if_pos later, if_pos (List.mem_cons_of_mem _ later)]
        · rw [if_neg later, if_neg (List.not_mem_cons_of_ne_of_not_mem here later)]

theorem lookup?_without {set : PluginSet} (other : PluginId) :
    ((without id set).bind fun left => left.lookup? other) =
      if other = id then none else set.lookup? other := by
  have erased : (set.erase id).lookup? other =
      if other = id then none else set.lookup? other := by
    split
    · rename_i same
      rw [same, SortedMap.lookup?_erase_self]
    · rename_i differ
      exact SortedMap.lookup?_erase_of_ne _ differ
  unfold without
  by_cases last : (set.erase id).size = 0
  · rw [if_pos last, ← erased, SortedMap.eq_empty_of_size last]
    rfl
  · rw [if_neg last, ← erased]
    rfl

/-- A plugin is added to the sets of its capabilities, and to no other. -/
theorem provides_addProviders (capabilities : List CapabilityDescriptor)
    (capability : CapabilityId) (other : PluginId) :
    provides (capabilities.foldl (addProvider id) providers) capability other =
      if capability ∈ capabilities.map CapabilityDescriptor.id ∧ other = id then some ()
      else provides providers capability other := by
  unfold provides
  rw [lookup?_addProviders]
  by_cases declared : capability ∈ capabilities.map CapabilityDescriptor.id
  · rw [if_pos declared, Option.bind_some]
    by_cases same : other = id
    · rw [if_pos ⟨declared, same⟩, same, SortedMap.lookup?_insert_self]
    · rw [if_neg fun both => same both.2, SortedMap.lookup?_insert_of_ne _ same]
      cases providers.lookup? capability <;> rfl
  · rw [if_neg declared, if_neg fun both => declared both.1]

/-- A plugin is removed from the sets of its capabilities, and from no other. -/
theorem provides_removeProviders
    (distinct : (capabilities.map CapabilityDescriptor.id).Nodup) (capability : CapabilityId)
    (other : PluginId) :
    provides (capabilities.foldl (removeProvider id) providers) capability other =
      if capability ∈ capabilities.map CapabilityDescriptor.id ∧ other = id then none
      else provides providers capability other := by
  unfold provides
  rw [lookup?_removeProviders id providers distinct]
  by_cases declared : capability ∈ capabilities.map CapabilityDescriptor.id
  · rw [if_pos declared]
    cases providers.lookup? capability with
    | none => exact (ite_self _).symm
    | some set =>
        rw [Option.bind_some, lookup?_without]
        by_cases same : other = id
        · rw [if_pos same, if_pos ⟨declared, same⟩]
        · rw [if_neg same, if_neg fun both => same both.2]
          rfl
  · rw [if_neg declared, if_neg fun both => declared both.1]

end Index

/-- The plugin is registered with a record that declares the capability. -/
def Declares (capability : CapabilityId) (id : PluginId) : Prop :=
  ∃ record, catalog.plugins.lookup? id = some record ∧
    capability ∈ record.capabilities.map CapabilityDescriptor.id

/-- The index is the inverse of the capability lists. -/
structure Indexed : Prop where
  named : ∀ id record, catalog.plugins.lookup? id = some record → record.id = id
  distinct : ∀ id record, catalog.plugins.lookup? id = some record →
    (record.capabilities.map CapabilityDescriptor.id).Nodup
  inverse : ∀ capability id,
    provides catalog.providers capability id = some () ↔ Declares catalog capability id
  nonempty : ∀ capability set, catalog.providers.lookup? capability = some set → set.size ≠ 0

theorem indexed_new : Indexed new := by
  refine ⟨nofun, nofun, fun capability id => ⟨nofun, ?_⟩, nofun⟩
  rintro ⟨record, impossible, -⟩
  cases impossible

/-- Nothing comes a second time exactly when the capabilities are distinct and not seen. -/
theorem firstRepeated_eq_none_iff :
    ∀ {seen : List CapabilityId}, firstRepeated seen capabilities = none ↔
      (capabilities.map CapabilityDescriptor.id).Nodup ∧
        ∀ capability ∈ capabilities.map CapabilityDescriptor.id, capability ∉ seen := by
  induction capabilities with
  | nil => exact ⟨fun _ => ⟨.nil, nofun⟩, fun _ => rfl⟩
  | cons first rest ih =>
      intro seen
      unfold firstRepeated
      rw [List.map_cons, List.nodup_cons, List.forall_mem_cons]
      by_cases known : first.id ∈ seen
      · rw [if_pos known]
        exact ⟨nofun, fun unique => absurd known unique.2.1⟩
      · rw [if_neg known, ih]
        constructor
        · rintro ⟨distinct, unseen⟩
          exact ⟨⟨fun again => unseen first.id again List.mem_cons_self, distinct⟩, known,
            fun capability member old =>
              unseen capability member (List.mem_cons_of_mem _ old)⟩
        · rintro ⟨⟨fresh, distinct⟩, -, unseen⟩
          refine ⟨distinct, fun capability member => ?_⟩
          exact List.not_mem_cons_of_ne_of_not_mem (fun same => fresh (same ▸ member))
            (unseen capability member)

/-- The plugin of a record is new, and no capability comes twice. -/
structure Acceptable (record : PluginRecord) : Prop where
  missing : catalog.plugins.lookup? record.id = none
  distinct : (record.capabilities.map CapabilityDescriptor.id).Nodup

section Registering

variable {catalog : CapabilityCatalog} {record : PluginRecord}

/-- The catalog in which a plugin is registered. -/
def registered (catalog : CapabilityCatalog) (record : PluginRecord) : CapabilityCatalog where
  plugins := catalog.plugins.insert record.id record
  providers := record.capabilities.foldl (addProvider record.id) catalog.providers

/-- A plugin is registered exactly when its record is acceptable; a call that is refused changes
nothing. -/
theorem register_cases (catalog : CapabilityCatalog)
    (id : PluginId)
    (displayName version : String)
    (capabilities : List CapabilityDescriptor) :
    (¬ catalog.Acceptable ⟨id, displayName, version, capabilities⟩ ∧
      ∃ error, (register id displayName version capabilities).exec catalog =
        (.error error, catalog)) ∨
    (catalog.Acceptable ⟨id, displayName, version, capabilities⟩ ∧
      (register id displayName version capabilities).exec catalog =
        (.ok (), catalog.registered ⟨id, displayName, version, capabilities⟩)) := by
  unfold register
  rw [exec_get_bind]
  unfold throwIf
  by_cases known : id ∈ catalog.plugins.keys
  · rw [if_pos known]
    refine .inl ⟨fun acceptable => ?_, .duplicatePlugin id, rfl⟩
    obtain ⟨record, found⟩ := SortedMap.mem_keys_iff.mp known
    exact nomatch acceptable.missing.symm.trans found
  have missing : catalog.plugins.lookup? id = none := by
    cases found : catalog.plugins.lookup? id with
    | none => rfl
    | some record => exact absurd (SortedMap.mem_keys_iff.mpr ⟨record, found⟩) known
  rw [if_neg known]
  cases repeated : firstRepeated [] capabilities with
  | some capability =>
      refine .inl ⟨fun acceptable => ?_, .duplicateCapability id capability, rfl⟩
      have unique : firstRepeated [] capabilities = none :=
        firstRepeated_eq_none_iff.mpr ⟨acceptable.distinct, fun _ _ => List.not_mem_nil⟩
      exact nomatch unique.symm.trans repeated
  | none => exact .inr ⟨⟨missing, (firstRepeated_eq_none_iff.mp repeated).1⟩, rfl⟩

theorem Indexed.registered (indexed : Indexed catalog)
    (missing : catalog.plugins.lookup? record.id = none)
    (distinct : (record.capabilities.map CapabilityDescriptor.id).Nodup) :
    Indexed (catalog.registered record) := by
  unfold CapabilityCatalog.registered
  refine ⟨?_, ?_, fun capability other => ?_, fun capability set found => ?_⟩
  · intro other found lookup
    dsimp only at lookup
    by_cases same : other = record.id
    · rw [same, SortedMap.lookup?_insert_self, Option.some_inj] at lookup
      rw [← lookup, same]
    · rw [SortedMap.lookup?_insert_of_ne _ same] at lookup
      exact indexed.named other found lookup
  · intro other found lookup
    dsimp only at lookup
    by_cases same : other = record.id
    · rw [same, SortedMap.lookup?_insert_self, Option.some_inj] at lookup
      rw [← lookup]
      exact distinct
    · rw [SortedMap.lookup?_insert_of_ne _ same] at lookup
      exact indexed.distinct other found lookup
  · dsimp only
    rw [provides_addProviders]
    unfold Declares
    dsimp only
    by_cases same : other = record.id
    · subst same
      have silent : provides catalog.providers capability record.id ≠ some () := by
        intro provided
        obtain ⟨known, lookup, -⟩ := (indexed.inverse capability record.id).mp provided
        exact nomatch missing.symm.trans lookup
      rw [SortedMap.lookup?_insert_self]
      constructor
      · intro provided
        split at provided
        · rename_i declared
          exact ⟨record, rfl, declared.1⟩
        · exact absurd provided silent
      · rintro ⟨_, ⟨⟩, declared⟩
        rw [if_pos ⟨declared, rfl⟩]
    · rw [if_neg fun both => same both.2, SortedMap.lookup?_insert_of_ne _ same]
      exact indexed.inverse capability other
  · dsimp only at found
    rw [lookup?_addProviders] at found
    split at found
    · obtain rfl := Option.some_inj.mp found
      intro none
      have member := SortedMap.lookup?_insert_self
        ((catalog.providers.lookup? capability).getD .empty) record.id ()
      rw [SortedMap.eq_empty_of_size none] at member
      cases member
    · exact indexed.nonempty capability set found

/-- Unregistering a plugin that has just been registered brings back the catalog. -/
theorem Indexed.unregister_registered (indexed : Indexed catalog)
    (missing : catalog.plugins.lookup? record.id = none)
    (distinct : (record.capabilities.map CapabilityDescriptor.id).Nodup) :
    (catalog.registered record).unregister record.id = (some record, catalog) := by
  unfold unregister CapabilityCatalog.registered
  dsimp only
  rw [SortedMap.lookup?_insert_self]
  dsimp only
  rw [SortedMap.erase_insert missing]
  have restored : record.capabilities.foldl (removeProvider record.id)
      (record.capabilities.foldl (addProvider record.id) catalog.providers) =
        catalog.providers := by
    apply SortedMap.ext_lookup
    intro capability
    rw [lookup?_removeProviders _ _ distinct, lookup?_addProviders]
    by_cases declared : capability ∈ record.capabilities.map CapabilityDescriptor.id
    · rw [if_pos declared, if_pos declared, Option.bind_some]
      unfold without
      cases found : catalog.providers.lookup? capability with
      | none =>
          rw [Option.getD_none, SortedMap.erase_insert (SortedMap.lookup?_empty record.id)]
          exact if_pos rfl
      | some set =>
          have absent : set.lookup? record.id = none := by
            cases member : set.lookup? record.id with
            | none => rfl
            | some value =>
                have provided : provides catalog.providers capability record.id = some () := by
                  unfold provides
                  rw [found]
                  exact member
                obtain ⟨_, known, -⟩ := (indexed.inverse capability record.id).mp provided
                exact nomatch missing.symm.trans known
          rw [Option.getD_some, SortedMap.erase_insert absent]
          exact if_neg (indexed.nonempty capability set found)
    · rw [if_neg declared, if_neg declared]
  rw [restored]

theorem Indexed.unregister (indexed : Indexed catalog) (id : PluginId) :
    Indexed (catalog.unregister id).2 := by
  unfold CapabilityCatalog.unregister
  cases known : catalog.plugins.lookup? id with
  | none => exact indexed
  | some record =>
      have distinct := indexed.distinct id record known
      -- what is left of the plugins are the others
      have others : ∀ other found, (catalog.plugins.erase id).lookup? other = some found →
          other ≠ id ∧ catalog.plugins.lookup? other = some found := by
        intro other found lookup
        by_cases same : other = id
        · rw [same, SortedMap.lookup?_erase_self] at lookup
          cases lookup
        · rw [SortedMap.lookup?_erase_of_ne _ same] at lookup
          exact ⟨same, lookup⟩
      refine ⟨?_, ?_, fun capability other => ?_, fun capability set found => ?_⟩
      · exact fun other found lookup => indexed.named other found (others other found lookup).2
      · exact fun other found lookup => indexed.distinct other found (others other found lookup).2
      · dsimp only
        rw [provides_removeProviders _ _ distinct]
        unfold Declares
        dsimp only
        by_cases same : other = id
        · subst same
          rw [SortedMap.lookup?_erase_self]
          constructor
          · intro provided
            split at provided
            · cases provided
            · rename_i undeclared
              obtain ⟨found, lookup, declared⟩ := (indexed.inverse capability other).mp provided
              rw [known, Option.some_inj] at lookup
              subst lookup
              exact absurd ⟨declared, rfl⟩ undeclared
          · rintro ⟨_, impossible, -⟩
            cases impossible
        · rw [if_neg fun both => same both.2, SortedMap.lookup?_erase_of_ne _ same]
          exact indexed.inverse capability other
      · dsimp only at found
        rw [lookup?_removeProviders _ _ distinct] at found
        split at found
        · obtain ⟨before, -, left⟩ := Option.bind_eq_some_iff.mp found
          unfold without at left
          split at left
          · cases left
          · rename_i notLast
            obtain rfl := Option.some_inj.mp left
            exact notLast
        · exact indexed.nonempty capability set found

end Registering

/-- The record declares the capability at the version. -/
def Offers (version : UInt32) (record : PluginRecord) : Prop :=
  ∃ descriptor ∈ record.capabilities,
    descriptor.id.text = capability ∧ descriptor.version = version

/-- The plugin is registered, and its record declares the capability at the version. -/
def Provider (version : UInt32)
    (record : PluginRecord) : Prop :=
  (∃ id, catalog.plugins.lookup? id = some record) ∧ Offers capability version record

/-- The set under the text of an id is the set under the id. -/
theorem indexed_text (capability : CapabilityId) :
    catalog.indexed capability.text = (catalog.providers.lookup? capability).getD .empty := by
  unfold indexed SortedMap.lookup?
  congr 1
  induction catalog.providers.entries with
  | nil => rfl
  | cons first rest ih =>
      rw [List.find?_cons, List.lookup_cons]
      by_cases here : capability = first.1
      · subst here
        rw [beq_self_eq_true, decide_eq_true rfl]
        rfl
      · have differ : first.1.text ≠ capability.text :=
          fun same => here (CapabilityId.text_injective same).symm
        rw [beq_false_of_ne here, decide_eq_false differ]
        exact ih

section Routing

variable {catalog : CapabilityCatalog} (indexed : Indexed catalog) (capability : String)
  (version : UInt32)

include indexed

/-- The providers are the registered plugins that declare the capability at the version. -/
theorem Indexed.mem_providersOf (record : PluginRecord) :
    record ∈ catalog.providersOf capability version ↔
      Provider catalog capability version record := by
  unfold providersOf Provider Offers
  rw [List.mem_filter, List.mem_filterMap, List.any_eq_true]
  simp only [decide_eq_true_eq]
  constructor
  · rintro ⟨⟨id, -, found⟩, offers⟩
    exact ⟨⟨id, found⟩, offers⟩
  · rintro ⟨⟨id, found⟩, descriptor, member, rfl, same⟩
    refine ⟨⟨id, ?_, found⟩, descriptor, member, rfl, same⟩
    have provided := (indexed.inverse descriptor.id id).mpr
      ⟨record, found, List.mem_map_of_mem member⟩
    obtain ⟨set, known, inSet⟩ := Option.bind_eq_some_iff.mp provided
    rw [indexed_text, known, Option.getD_some]
    exact SortedMap.mem_keys_iff.mpr ⟨(), inSet⟩

theorem Indexed.nodup_providersOf : (catalog.providersOf capability version).Nodup := by
  unfold providersOf
  refine List.Pairwise.filter _ (List.Nodup.filterMap ?_ (SortedMap.nodup_keys _))
  intro first second record firstFound secondFound
  exact (indexed.named first record firstFound).symm.trans
    (indexed.named second record secondFound)

/-- A plugin is resolved exactly when it is the only provider. -/
theorem Indexed.resolveUnique_eq_ok (record : PluginRecord) :
    catalog.resolveUnique capability version = .ok record ↔
      Provider catalog capability version record ∧
        ∀ other, Provider catalog capability version other → other = record := by
  have members := indexed.mem_providersOf capability version
  have distinct := indexed.nodup_providersOf capability version
  unfold resolveUnique
  constructor
  · intro resolved
    split at resolved
    · cases resolved
    · rename_i provider only
      obtain rfl := Except.ok.inj resolved
      refine ⟨(members provider).mp (only ▸ List.mem_cons_self), fun other provides => ?_⟩
      have member := (members other).mpr provides
      rw [only] at member
      exact List.mem_singleton.mp member
    · cases resolved
  · rintro ⟨provides, unique⟩
    have member := (members record).mpr provides
    have single : catalog.providersOf capability version = [record] := by
      refine List.perm_singleton.mp ((List.perm_ext_iff_of_nodup distinct
        (List.pairwise_singleton _ record)).mpr fun other => ?_)
      rw [List.mem_singleton]
      exact ⟨fun found => unique other ((members other).mp found), fun same => same ▸ member⟩
    rw [single]

end Routing

inductive CatalogCall
  | register (id : PluginId) (displayName version : String)
      (capabilities : List CapabilityDescriptor)
  | registerConnection (connection : PluginConnectionInfo)
  | unregister (id : PluginId)

/-- The answer to a call, and the catalog that it leaves. -/
def answer : CatalogCall → Except CatalogError Unit × CapabilityCatalog
  | .register id displayName version capabilities =>
      (register id displayName version capabilities).exec catalog
  | .registerConnection connection =>
      let (result, next) := (registerConnection connection).exec catalog
      (discard result, next)
  | .unregister id => (.ok (), (catalog.unregister id).2)

def perform (call : CatalogCall) : CapabilityCatalog :=
  (catalog.answer call).2

/-- The record that a call registers. -/
def CatalogCall.record : CatalogCall → Option PluginRecord
  | register id displayName version capabilities => some ⟨id, displayName, version, capabilities⟩
  | registerConnection connection =>
      (PluginId.new connection.pluginId).toOption.map fun id =>
        ⟨id, connection.displayName, connection.pluginVersion, connection.capabilities⟩
  | unregister _ => none

/-- The record becomes one of the registered plugins and a provider of its capabilities; nothing
else changes, and unregistering it takes that back. -/
structure Adds (after : CapabilityCatalog) (record : PluginRecord) : Prop where
  plugins : ∀ id, after.plugins.lookup? id =
    if id = record.id then some record else catalog.plugins.lookup? id
  providers : ∀ capability id, provides after.providers capability id =
    if capability ∈ record.capabilities.map CapabilityDescriptor.id ∧ id = record.id then some ()
    else provides catalog.providers capability id
  takenBack : (after.unregister record.id).2 = catalog

/-- What a call does: a call that is refused changes nothing; a registration is accepted exactly
when its record is acceptable, and adds it; unregistering takes out the plugin. -/
structure Answered (call : CatalogCall) : Prop where
  refused : ∀ error, (catalog.answer call).1 = .error error → catalog.perform call = catalog
  accepted : ∀ record, call.record = some record →
    ((catalog.answer call).1 = .ok () ↔ catalog.Acceptable record)
  added : ∀ record, call.record = some record → (catalog.answer call).1 = .ok () →
    Adds catalog (catalog.perform call) record
  removed : ∀ id, call = .unregister id → ∀ other,
    (catalog.perform call).plugins.lookup? other =
      if other = id then none else catalog.plugins.lookup? other

/-- The index fits the records, and routing goes to the only provider. -/
structure Consistent : Prop where
  indexed : Indexed catalog
  resolves : ∀ capability version record,
    catalog.resolveUnique capability version = .ok record ↔
      Provider catalog capability version record ∧
        ∀ other, Provider catalog capability version other → other = record

section Calls

variable {catalog : CapabilityCatalog}

/-- A connection is registered under the id that it names, when its record is acceptable. -/
theorem registerConnection_exec (catalog : CapabilityCatalog)
    (connection : PluginConnectionInfo) :
    ((∀ record, (CatalogCall.registerConnection connection).record = some record →
        ¬ catalog.Acceptable record) ∧
      ∃ error, (registerConnection connection).exec catalog = (.error error, catalog)) ∨
    ∃ id, PluginId.new connection.pluginId = .ok id ∧
      catalog.Acceptable
        ⟨id, connection.displayName, connection.pluginVersion, connection.capabilities⟩ ∧
      (registerConnection connection).exec catalog =
        (.ok id, catalog.registered
          ⟨id, connection.displayName, connection.pluginVersion, connection.capabilities⟩) := by
  unfold registerConnection CatalogCall.record
  dsimp only
  cases built : PluginId.new connection.pluginId with
  | error error => exact .inl ⟨nofun, .invalidPluginId error, rfl⟩
  | ok id =>
      have first : (Fallible.ofExcept ((Except.ok id : Except PluginIdError PluginId).mapError
          CatalogError.invalidPluginId)).exec catalog = (.ok id, catalog) := rfl
      rw [exec_bind_of_ok first]
      rcases register_cases catalog id connection.displayName connection.pluginVersion
          connection.capabilities with ⟨unacceptable, error, refused⟩ | ⟨acceptable, accepted⟩
      · refine .inl ⟨fun record same => ?_, error, exec_bind_of_error refused⟩
        obtain rfl := Option.some_inj.mp same
        exact unacceptable
      · refine .inr ⟨id, rfl, acceptable, ?_⟩
        rw [exec_bind_of_ok accepted]
        rfl

/-- A call is refused, registers a plugin, or unregisters one. -/
theorem answer_cases (catalog : CapabilityCatalog) (call : CatalogCall) :
    ((∀ record, call.record = some record → ¬ catalog.Acceptable record) ∧
      (∀ id, call ≠ .unregister id) ∧
        ∃ error, catalog.answer call = (.error error, catalog)) ∨
    (∃ record, catalog.Acceptable record ∧ call.record = some record ∧
      catalog.answer call = (.ok (), catalog.registered record)) ∨
    ∃ id, call = .unregister id ∧ catalog.answer call = (.ok (), (catalog.unregister id).2) := by
  cases call with
  | register id displayName version capabilities =>
      rcases register_cases catalog id displayName version capabilities with
        ⟨unacceptable, refused⟩ | ⟨acceptable, accepted⟩
      · refine .inl ⟨fun record same => ?_, nofun, refused⟩
        obtain rfl := Option.some_inj.mp same
        exact unacceptable
      · exact .inr (.inl ⟨_, acceptable, rfl, accepted⟩)
  | registerConnection connection =>
      rcases registerConnection_exec catalog connection with
        ⟨unacceptable, error, refused⟩ | ⟨id, built, acceptable, accepted⟩
      · refine .inl ⟨unacceptable, nofun, error, ?_⟩
        unfold answer
        dsimp only
        rw [refused]
        rfl
      · refine .inr (.inl ⟨_, acceptable, ?_, ?_⟩)
        · unfold CatalogCall.record
          dsimp only
          rw [built]
          rfl
        · unfold answer
          dsimp only
          rw [accepted]
          rfl
  | unregister id => exact .inr (.inr ⟨id, rfl, rfl⟩)

theorem Indexed.perform (indexed : Indexed catalog) (call : CatalogCall) :
    Indexed (catalog.perform call) := by
  unfold CapabilityCatalog.perform
  rcases answer_cases catalog call with
    ⟨-, -, error, refused⟩ | ⟨record, acceptable, -, accepted⟩ | ⟨id, -, removed⟩
  · rw [refused]
    exact indexed
  · rw [accepted]
    exact indexed.registered acceptable.missing acceptable.distinct
  · rw [removed]
    exact indexed.unregister id

/-- An acceptable record is added. -/
theorem Indexed.adds {record : PluginRecord} (indexed : Indexed catalog)
    (acceptable : catalog.Acceptable record) :
    Adds catalog (catalog.registered record) record where
  plugins id := by
    unfold CapabilityCatalog.registered
    by_cases same : id = record.id
    · rw [if_pos same, same]
      exact SortedMap.lookup?_insert_self _ _ _
    · rw [if_neg same]
      exact SortedMap.lookup?_insert_of_ne _ same _
  providers := provides_addProviders record.id catalog.providers record.capabilities
  takenBack := by rw [indexed.unregister_registered acceptable.missing acceptable.distinct]

theorem lookup?_unregister (other : PluginId) :
    (catalog.unregister id).2.plugins.lookup? other =
      if other = id then none else catalog.plugins.lookup? other := by
  unfold CapabilityCatalog.unregister
  by_cases same : other = id
  · subst same
    rw [if_pos rfl]
    cases known : catalog.plugins.lookup? other with
    | none => exact known
    | some record => exact SortedMap.lookup?_erase_self _ _
  · rw [if_neg same]
    cases catalog.plugins.lookup? id with
    | none => rfl
    | some record => exact SortedMap.lookup?_erase_of_ne _ same

theorem Indexed.answered (indexed : Indexed catalog) (call : CatalogCall) :
    Answered catalog call := by
  rcases answer_cases catalog call with
    ⟨unacceptable, registers, error, refused⟩ | ⟨record, acceptable, named, accepted⟩ |
      ⟨id, rfl, removed⟩
  · refine ⟨fun _ _ => ?_, fun record named => ?_, fun record _ succeeds => ?_,
      fun id same => absurd same (registers id)⟩
    · exact congrArg Prod.snd refused
    · rw [refused]
      exact iff_of_false nofun (unacceptable record named)
    · rw [refused] at succeeds
      cases succeeds
  · refine ⟨fun error fails => ?_, fun other same => ?_, fun other same _ => ?_,
      fun id same => ?_⟩
    · rw [accepted] at fails
      cases fails
    · obtain rfl := Option.some_inj.mp (named.symm.trans same)
      rw [accepted]
      exact iff_of_true rfl acceptable
    · obtain rfl := Option.some_inj.mp (named.symm.trans same)
      unfold CapabilityCatalog.perform
      rw [accepted]
      exact indexed.adds acceptable
    · rw [same] at named
      cases named
  · refine ⟨nofun, nofun, nofun, fun other same => ?_⟩
    cases same
    unfold CapabilityCatalog.perform
    rw [removed]
    exact lookup?_unregister id

end Calls

/-- In every run of the catalog the index is the inverse of the capability lists, a refused
registration changes nothing, an accepted one adds its record and unregistering takes it back,
and what is resolved is the only provider. -/
theorem catalog_consistent (calls : List CatalogCall) :
    Throughout perform Consistent new calls ∧ EachStep perform Answered new calls := by
  constructor
  · refine (throughout_of_invariant Indexed (fun _ call indexed => indexed.perform call)
      indexed_new calls).mono fun catalog indexed => ?_
    exact ⟨indexed, indexed.resolveUnique_eq_ok⟩
  · exact eachStep_of_step Indexed (fun _ call indexed _ => indexed.answered call)
      (fun _ call indexed => indexed.perform call) indexed_new (eachStep_true new calls)

end CapabilityCatalog

end PluginHost
end YunXi
