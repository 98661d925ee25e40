import YunXi.ToolSkills.Limits

/-!
# Answers about skills

The list of skills, the instructions of some of them and the status of the plugin are built from
one discovery.  Each answer is checked when it is built, and a discovery passes these checks
whatever the files and their names contain.
-/

namespace YunXi
namespace ToolSkills

open Protocol
open Strings (head?_toList_append)

variable (snapshot : DiscoverySnapshot)

/-- `list_result`. -/
def listResult : Except SkillProtocolError SkillListResult :=
  SkillListResult.new snapshot.root (snapshot.skills.map (·.metadata)) snapshot.warnings
    snapshot.truncated

/-- What the loop over the skills of a request has gathered. -/
structure Gathered where
  blocks : List SkillContextBlock
  warnings : List String
  contextBytes : Nat
  truncated : Bool

/-- One skill of a request. -/
def gather (state : Gathered) (id : String) :
    Except SkillProtocolError Gathered :=
  let warn (text : String) := state.warnings ++ ["Skill `" ++ id ++ text]
  match snapshot.skills.find? fun skill => skill.metadata.id = id with
  | none => .ok { state with warnings := warn "` is not available" }
  | some skill =>
      let size := skill.instructions.utf8ByteSize
      if isBlank skill.instructions = true then
        .ok { state with warnings := warn "` has no instruction body" }
      else if state.contextBytes + size > maxSkillContextBytes then
        .ok { state with
          warnings := warn "` was omitted because the context budget was exhausted"
          truncated := true }
      else do
        let block ← SkillContextBlock.new id skill.instructions
        return { state with
          blocks := state.blocks ++ [block]
          contextBytes := state.contextBytes + size }

/-- `context_result`. -/
def contextResult (request : SkillContextRequest) :
    Except SkillProtocolError SkillContextResult := do
  let state ← request.skillIds.foldlM (gather snapshot) ⟨[], snapshot.warnings, 0, false⟩
  SkillContextResult.new state.blocks (state.warnings.take 32) state.truncated

/-- The answer to a request for the status. -/
def statusResult : Except SkillProtocolError SkillStatusResult :=
  SkillStatusResult.new snapshot.root .ready snapshot.skills.length
    (snapshot.skills.map (·.metadata.tools.length)).sum none

variable {machine : Machine} {config : SkillsConfig}

def Inspected.skill? : Inspected → Option DiscoveredSkill
  | loaded skill => some skill
  | ignored | warned _ => none

/-- Skills of the root that are valid, in the order of their directories. -/
def loadedSkills (machine : Machine) (config : SkillsConfig) : List DiscoveredSkill :=
  match machine.canonicalize config.root with
  | .error _ => []
  | .ok canonicalRoot => (machine.names canonicalRoot).filterMap fun directory =>
      (inspectEntry machine config canonicalRoot directory).skill?

/-- What the loader checks of a skill. -/
structure Loadable (skill : DiscoveredSkill) : Prop where
  block : validateContextBlock skill.metadata.id skill.instructions = .ok ()
  counted : skill.metadata.instructionBytes = skill.instructions.utf8ByteSize

variable {canonicalRoot : List FileName} {skill : DiscoveredSkill}

theorem loadable_of_loadSkill {directory : FileName}
    (loads : loadSkill machine config canonicalRoot directory = .ok skill) :
    Loadable skill := by
  unfold loadSkill at loads
  simp only [Except.bind_eq_ok, Except.mapError_eq_ok, Except.pure_eq_ok] at loads
  obtain ⟨bytes, -, content, -, name, -, block, isBlock, tools, -, metadata, isMetadata, rfl⟩ := loads
  obtain ⟨valid, -⟩ := eq_of_construct isBlock
  obtain ⟨_, rfl⟩ := eq_of_construct isMetadata
  exact ⟨valid, rfl⟩

/-- An entry of the root is loaded, or it is ignored, maybe with a warning. -/
theorem inspectEntry_eq {directory : FileName} :
    (∀ skill, inspectEntry machine config canonicalRoot directory = .loaded skill →
        loadSkill machine config canonicalRoot directory = .ok skill) ∧
      ∀ warning, inspectEntry machine config canonicalRoot directory = .warned warning →
        warning.toList.head? = some 'i' := by
  unfold inspectEntry
  dsimp only
  split
  · simp
  split
  · refine ⟨by simp, ?_⟩
    rintro _ ⟨⟩
    iterate 3 apply head?_toList_append
    decide
  split
  · refine ⟨by simp, ?_⟩
    rintro _ ⟨⟩
    apply head?_toList_append
    decide
  split
  · simp
  split
  · refine ⟨by simp, ?_⟩
    rintro _ ⟨⟩
    iterate 3 apply head?_toList_append
    decide
  split
  · refine ⟨by simp, ?_⟩
    rintro _ ⟨⟩
    apply head?_toList_append
    decide
  split
  · next loads =>
      refine ⟨?_, by simp⟩
      rintro _ ⟨⟩
      exact loads
  · refine ⟨by simp, ?_⟩
    rintro _ ⟨⟩
    iterate 3 apply head?_toList_append
    decide

theorem loadable_of_mem (among : skill ∈ loadedSkills machine config) :
    Loadable skill := by
  unfold loadedSkills at among
  split at among
  · exact absurd among List.not_mem_nil
  obtain ⟨directory, -, isLoaded⟩ := List.mem_filterMap.mp among
  cases inspected : inspectEntry machine config _ directory with
  | ignored | warned => rw [inspected] at isLoaded; cases isLoaded
  | loaded loaded =>
      rw [inspected] at isLoaded
      cases isLoaded
      exact loadable_of_loadSkill (inspectEntry_eq.1 skill inspected)

/-- Two states that differ in their warnings only. -/
structure Discovery.Alike (state other : Discovery) : Prop where
  skills : state.skills = other.skills
  truncated : state.truncated = other.truncated
  skillIds : state.skillIds = other.skillIds
  toolCount : state.toolCount = other.toolCount

theorem Discovery.Alike.offer {state other : Discovery} (alike : state.Alike other)
    (skill : DiscoveredSkill) : (state.offer config skill).Alike (other.offer config skill) := by
  obtain ⟨skills, truncated, skillIds, toolCount⟩ := alike
  unfold Discovery.offer
  dsimp only
  rw [skills, skillIds, toolCount]
  split
  · exact ⟨rfl, rfl, rfl, rfl⟩
  split
  · exact ⟨skills, truncated, skillIds, toolCount⟩
  split
  · exact ⟨rfl, truncated, rfl, rfl⟩
  split
  · exact ⟨rfl, rfl, rfl, rfl⟩
  · exact ⟨rfl, truncated, rfl, rfl⟩

/-- The loop over the root admits the skills that are loaded. -/
theorem Discovery.alike_visits (names : List FileName)
    {state other : Discovery} (alike : state.Alike other) :
    (names.foldl (Discovery.visit machine config canonicalRoot) state).Alike
      (other.offerAll config (names.filterMap fun directory =>
        (inspectEntry machine config canonicalRoot directory).skill?)) := by
  induction names generalizing state other with
  | nil => exact alike
  | cons directory rest ih =>
      rw [List.foldl_cons, List.filterMap_cons]
      unfold Discovery.visit
      cases inspected : inspectEntry machine config canonicalRoot directory with
      | ignored => exact ih alike
      | warned => exact ih ⟨alike.1, alike.2, alike.3, alike.4⟩
      | loaded skill => exact ih (alike.offer skill)

/-- Every warning of the loop begins with a letter. -/
theorem Discovery.warned_visits (names : List FileName)
    {state : Discovery} (said : ∀ warning ∈ state.warnings, warning.toList.head? = some 'i') :
    ∀ warning ∈ (names.foldl (Discovery.visit machine config canonicalRoot) state).warnings,
      warning.toList.head? = some 'i' := by
  induction names generalizing state with
  | nil => exact said
  | cons directory rest ih =>
      refine ih ?_
      unfold Discovery.visit
      cases inspected : inspectEntry machine config canonicalRoot directory with
      | ignored => exact said
      | warned warning =>
          refine List.forall_mem_append.mpr ⟨said, ?_⟩
          exact List.forall_mem_singleton.mpr (inspectEntry_eq.2 warning inspected)
      | loaded skill =>
          unfold Discovery.offer
          dsimp only
          split
          · exact said
          split
          · exact said
          split
          · refine List.forall_mem_append.mpr ⟨said, List.forall_mem_singleton.mpr ?_⟩
            iterate 2 apply head?_toList_append
            decide
          split
          · exact said
          · exact said

variable {maximum : Nat} {character : Char}

/-- A text that begins with a character keeps it when it is cut. -/
theorem head?_truncate {value : String}
    (head : value.toList.head? = some character) (fits : character.utf8Size ≤ maximum) :
    (truncate value maximum).toList.head? = some character := by
  obtain ⟨rest, isValue⟩ := List.head?_eq_some_iff.mp head
  unfold truncate
  split
  · exact head
  · rw [String.toList_ofList, isValue, takeBytes, if_pos fits, List.head?_cons]

theorem isBlank_of_head {value : String}
    (head : value.toList.head? = some character) (said : isWhiteSpace character = false) :
    isBlank value = false := by
  obtain ⟨rest, isValue⟩ := List.head?_eq_some_iff.mp head
  rw [isBlank, isValue, List.all_cons, said, Bool.false_and]

theorem mem_of_mem_truncate {value : String}
    (among : character ∈ (truncate value maximum).toList) : character ∈ value.toList := by
  unfold truncate at among
  split at among
  · exact among
  · rw [String.toList_ofList] at among
    exact takeBytes_subset _ _ among

theorem isWarning_boundWarning {warning : String} (head : warning.toList.head? = some 'i') :
    IsWarning (boundWarning warning) := by
  have cleaned : (String.ofList (warning.toList.map fun character =>
      if isControlCharacter character then ' ' else character)).toList.head? = some 'i' := by
    rw [String.toList_ofList, List.head?_map, head]
    decide
  refine ⟨isBlank_of_head (head?_truncate cleaned (by decide)) (by decide),
    utf8ByteSize_truncate_le _ _, ?_⟩
  rw [List.any_eq_false]
  intro character among
  have wasThere := mem_of_mem_truncate among
  rw [String.toList_ofList] at wasThere
  obtain ⟨original, -, rfl⟩ := List.mem_map.mp wasThere
  split
  · decide
  · next plain => exact plain

theorem SkillsConfig.validateSkillText_root (config : SkillsConfig) :
    validateSkillText "Skill root" config.rootText maxSkillPathBytes false = .ok () := by
  have valid := config.valid
  unfold validateConfig validateRoot at valid
  rw [Except.check_bind_eq_ok, Except.check_bind_eq_ok, Except.check_bind_eq_ok, refuseIf_eq_ok,
    refuseIf_eq_ok, refuseIf_eq_ok, not_lt, Bool.not_eq_true, Bool.not_eq_true] at valid
  exact validateSkillText_eq_ok.mpr ⟨.inr valid.1.1, valid.1.2⟩

theorem isWarning_missingRoot (config : SkillsConfig) :
    IsWarning ("Skills root does not exist: " ++ config.rootText) := by
  obtain ⟨-, short, plain⟩ := validateSkillText_eq_ok.mp config.validateSkillText_root
  refine ⟨isBlank_of_head (head?_toList_append _ (show _ = some 'S' by decide)) (by decide), ?_, ?_⟩
  · rw [String.utf8ByteSize_append]
    exact (Nat.add_le_add_left short _).trans (by decide)
  · rw [String.toList_append, List.any_append, plain, Bool.or_false]
    decide

/-- What every answer needs of a discovery. -/
structure Serves (config : SkillsConfig) (snapshot : DiscoverySnapshot) : Prop where
  root : snapshot.root = config.rootText
  distinct : (skillIdsOf snapshot.skills).Nodup
  enabled : ∀ skill ∈ snapshot.skills, config.isDisabled skill.metadata.id = false
  few : snapshot.skills.length ≤ maxSkillMetadata
  fewTools : toolSum snapshot.skills ≤ maxSkillToolDeclarations
  loadable : ∀ skill ∈ snapshot.skills, Loadable skill
  fewWarnings : snapshot.warnings.length ≤ maxSkillWarnings
  warnings : ∀ warning ∈ snapshot.warnings, IsWarning warning

/-- If there is a root, it is a directory. -/
def Readable (machine : Machine) (config : SkillsConfig) : Prop :=
  ∀ place, machine.canonicalize config.root = .ok place → machine.files.isDirectory place = true

theorem wanted_sublist (seen : List String) (loaded : List DiscoveredSkill) :
    (wanted config seen loaded).Sublist loaded := by
  induction loaded generalizing seen with
  | nil => exact List.Sublist.refl _
  | cons skill rest ih =>
      rw [wanted]
      split
      · exact (ih seen).cons _
      · exact (ih _).cons_cons _

theorem loadable_offerAll (machine : Machine) (config : SkillsConfig) :
    ∀ skill ∈ (Discovery.start.offerAll config (loadedSkills machine config)).skills,
      Loadable skill := by
  intro skill among
  obtain ⟨kept, isKept, sublist⟩ :=
    @Discovery.skills_offerAll config .start (loadedSkills machine config)
  rw [isKept] at among
  exact loadable_of_mem (((sublist.trans (wanted_sublist _ _)).subset) among)

theorem Discovery.Alike.sound {state other : Discovery} (alike : state.Alike other)
    (sound : other.Sound config) : state.Sound config := by
  obtain ⟨distinct, known, enabled, few, count, fewTools⟩ := sound
  rw [← alike.skills] at distinct known enabled few count
  rw [← alike.skillIds] at known
  rw [← alike.toolCount] at count fewTools
  exact ⟨distinct, known, enabled, few, count, fewTools⟩

theorem Discovery.Sound.serves {state : Discovery} (sound : state.Sound config)
    (loadable : ∀ skill ∈ state.skills, Loadable skill)
    (said : ∀ warning ∈ state.warnings, warning.toList.head? = some 'i') :
    Serves config ⟨config.rootText, state.skills, boundWarnings state.warnings,
      state.truncated⟩ where
  root := rfl
  distinct := sound.distinct
  enabled := sound.enabled
  few := sound.few
  fewTools := sound.count ▸ sound.fewTools
  loadable := loadable
  fewWarnings := by
    change (List.map _ _).length ≤ _
    rw [List.length_map]
    exact List.length_take_le _ _
  warnings := by
    intro warning among
    obtain ⟨raw, isRaw, rfl⟩ := List.mem_map.mp among
    exact isWarning_boundWarning (said raw (List.mem_of_mem_take isRaw))

theorem discover_eq_ok (readable : Readable machine config) :
    ∃ snapshot, discover machine config = .ok snapshot ∧ Serves config snapshot ∧
      snapshot.skills =
        (Discovery.start.offerAll config (loadedSkills machine config)).skills ∧
      snapshot.truncated =
        (Discovery.start.offerAll config (loadedSkills machine config)).truncated := by
  obtain ⟨-, short, -⟩ := validateSkillText_eq_ok.mp config.validateSkillText_root
  have loadable := loadable_offerAll machine config
  have sound := (@Discovery.sound_start config).offerAll (loadedSkills machine config)
  unfold discover
  dsimp only
  rw [refuseIf, if_neg (not_lt.mpr short)]
  cases located : machine.canonicalize config.root with
  | error error =>
      have none : loadedSkills machine config = [] := by rw [loadedSkills, located]
      rw [none]
      refine ⟨_, rfl, ?_, rfl, rfl⟩
      exact ⟨rfl, List.nodup_nil, List.forall_mem_nil _, Nat.zero_le _, Nat.zero_le _,
        List.forall_mem_nil _, (Nat.le_add_left 1 31),
        List.forall_mem_singleton.mpr (isWarning_missingRoot config)⟩
  | ok canonicalRoot =>
      have isLoaded : loadedSkills machine config = (machine.names canonicalRoot).filterMap
          fun directory => (inspectEntry machine config canonicalRoot directory).skill? := by
        rw [loadedSkills, located]
      rw [isLoaded] at sound loadable ⊢
      have alike := @Discovery.alike_visits machine config canonicalRoot
        (machine.names canonicalRoot) .start .start ⟨rfl, rfl, rfl, rfl⟩
      have said := @Discovery.warned_visits machine config canonicalRoot
        (machine.names canonicalRoot) .start (List.forall_mem_nil _)
      have isDirectory : ¬ machine.files.isDirectory canonicalRoot = false :=
        Bool.not_eq_false _ ▸ readable canonicalRoot located
      rw [← alike.skills] at loadable
      refine ⟨_, ?_, (alike.sound sound).serves loadable said, alike.skills, alike.truncated⟩
      dsimp only
      rw [refuseIf, if_neg isDirectory]
      rfl

variable {snapshot : DiscoverySnapshot}

theorem Serves.validateSkillText_root (serves : Serves config snapshot) :
    validateSkillText "Skill root" snapshot.root maxSkillPathBytes false = .ok () := by
  rw [serves.root]
  exact config.validateSkillText_root

theorem Serves.listResult (serves : Serves config snapshot) :
    ∃ result, listResult snapshot = .ok result := by
  refine construct_eq_ok.mpr ?_
  unfold validateSkillList
  rw [Except.check_bind_eq_ok, Except.check_bind_eq_ok]
  refine ⟨serves.validateSkillText_root, validateMetadata_eq_ok ?_ ?_ ?_,
    validateWarnings_eq_ok serves.fewWarnings serves.warnings⟩
  · rw [List.map_map]
    exact serves.distinct
  · rw [List.length_map]
    exact serves.few
  · rw [List.map_map]
    exact serves.fewTools

theorem Serves.statusResult (serves : Serves config snapshot) :
    ∃ result, statusResult snapshot = .ok result := by
  refine construct_eq_ok.mpr ?_
  unfold validateSkillStatus
  rw [Except.check_bind_eq_ok, Except.check_bind_eq_ok, Except.check_bind_eq_ok, refuseIf_eq_ok,
    refuseIf_eq_ok]
  exact ⟨serves.validateSkillText_root, not_lt.mpr serves.few, not_lt.mpr serves.fewTools, rfl⟩

/-- What the loop over a request keeps true of what it has gathered. -/
structure Gathered.Sound (done : List String) (state : Gathered) : Prop where
  blocks : (state.blocks.map (·.skillId)).Sublist done
  counted : state.contextBytes = (state.blocks.map (·.instructions.utf8ByteSize)).sum
  fits : state.contextBytes ≤ maxSkillContextBytes
  warnings : ∀ warning ∈ state.warnings, IsWarning warning

theorem isControlCharacter_of_identifier
    (isPart : identifierCharacter character = true) : isControlCharacter character = false := by
  have lower : isAsciiLowercase character = true ∨ isAsciiDigit character = true ∨
      character = '-' ∨ character = '_' := by
    simpa [identifierCharacter, or_assoc] using isPart
  rcases lower with lower | digit | rfl | rfl
  · simp only [isAsciiLowercase, isControlCharacter] at *
    grind
  · simp only [isAsciiDigit, isControlCharacter] at *
    grind
  · rfl
  · rfl

/-- A warning about a skill of a request. -/
theorem isWarning_skill {id rest : String} (identifier : IsIdentifier id maxSkillIdBytes)
    (short : rest.utf8ByteSize ≤ 100) (plain : rest.toList.any isControlCharacter = false) :
    IsWarning ("Skill `" ++ id ++ rest) := by
  refine ⟨isBlank_of_head (head?_toList_append _ (head?_toList_append _ (show _ = some 'S' by decide)))
    (by decide), ?_, ?_⟩
  · rw [String.utf8ByteSize_append, String.utf8ByteSize_append]
    exact (Nat.add_le_add (Nat.add_le_add_left identifier.short _) short).trans (by decide)
  · have idPlain : id.toList.any isControlCharacter = false := by
      rw [List.any_eq_false]
      intro character among
      rw [isControlCharacter_of_identifier
        (List.all_eq_true.mp identifier.characters character among)]
      exact Bool.false_ne_true
    rw [String.toList_append, String.toList_append, List.any_append, List.any_append, idPlain,
      plain, Bool.or_false, Bool.or_false]
    decide

theorem Gathered.Sound.gather (serves : Serves config snapshot) {done : List String}
    {state : Gathered} (sound : state.Sound done) {id : String}
    (identifier : IsIdentifier id maxSkillIdBytes) :
    ∃ next, gather snapshot state id = .ok next ∧ next.Sound (done ++ [id]) := by
  obtain ⟨blocks, counted, fits, warnings⟩ := sound
  have more : (state.blocks.map (·.skillId)).Sublist (done ++ [id]) :=
    blocks.trans (List.sublist_append_left _ _)
  have warned : ∀ {rest : String}, rest.utf8ByteSize ≤ 100 →
      rest.toList.any isControlCharacter = false →
        ∀ warning ∈ state.warnings ++ ["Skill `" ++ id ++ rest], IsWarning warning :=
    fun short plain => List.forall_mem_append.mpr ⟨warnings,
      List.forall_mem_singleton.mpr (isWarning_skill identifier short plain)⟩
  unfold ToolSkills.gather
  dsimp only
  cases found : snapshot.skills.find? fun skill => skill.metadata.id = id with
  | none => exact ⟨_, rfl, more, counted, fits, warned (by decide) (by decide)⟩
  | some skill =>
      dsimp only
      split
      · exact ⟨_, rfl, more, counted, fits, warned (by decide) (by decide)⟩
      split
      · exact ⟨_, rfl, more, counted, fits, warned (by decide) (by decide)⟩
      next room =>
      have isId : skill.metadata.id = id := by simpa using List.find?_some found
      have valid := (serves.loadable skill (List.mem_of_find?_eq_some found)).block
      rw [isId] at valid
      rw [SkillContextBlock.new, construct_of_ok valid]
      refine ⟨_, rfl, ?_, ?_, not_lt.mp room, warnings⟩
      · rw [List.map_append, List.map_singleton]
        exact blocks.append (List.Sublist.refl _)
      · rw [List.map_append, List.map_singleton, List.sum_append, List.sum_singleton, ← counted]

theorem Gathered.Sound.gatherAll (serves : Serves config snapshot) {ids : List String}
    (identifiers : ∀ id ∈ ids, IsIdentifier id maxSkillIdBytes) {done : List String}
    {state : Gathered} (sound : state.Sound done) :
    ∃ final, ids.foldlM (ToolSkills.gather snapshot) state = .ok final ∧
      final.Sound (done ++ ids) := by
  induction ids generalizing done state with
  | nil => exact ⟨state, rfl, (List.append_nil done).symm ▸ sound⟩
  | cons id rest ih =>
      obtain ⟨identifier, others⟩ := List.forall_mem_cons.mp identifiers
      obtain ⟨next, gathers, isSound⟩ := sound.gather serves identifier
      obtain ⟨final, finishes, isFinal⟩ := ih others isSound
      refine ⟨final, ?_, ?_⟩
      · rw [List.foldlM_cons, gathers]
        exact finishes
      · rwa [List.append_assoc, List.singleton_append] at isFinal

theorem Serves.contextResult (serves : Serves config snapshot) (request : SkillContextRequest) :
    ∃ result, contextResult snapshot request = .ok result ∧
      (result.blocks.map (·.instructions.utf8ByteSize)).sum ≤ maxSkillContextBytes := by
  have start : Gathered.Sound [] ⟨[], snapshot.warnings, 0, false⟩ :=
    ⟨List.Sublist.refl _, rfl, Nat.zero_le _, serves.warnings⟩
  obtain ⟨final, gathers, blocks, counted, fits, warnings⟩ :=
    start.gatherAll serves fun id among => isIdentifier_of_mem_request among
  have distinct : (final.blocks.map (·.skillId)).Nodup := blocks.nodup (nodup_skillIds request)
  have valid : validateContextResult final.blocks (final.warnings.take 32) = .ok () := by
    unfold validateContextResult
    rw [validateBlocks_eq_ok 0 distinct fun _ _ => List.not_mem_nil, Nat.zero_add, ← counted]
    exact Except.check_bind_eq_ok.mpr ⟨refuseIf_eq_ok.mpr (not_lt.mpr fits),
      validateWarnings_eq_ok (List.length_take_le _ _) fun warning among =>
        warnings warning (List.mem_of_mem_take among)⟩
  refine ⟨⟨final.blocks, final.warnings.take 32, final.truncated, valid⟩, ?_, counted ▸ fits⟩
  unfold ToolSkills.contextResult
  rw [gathers]
  exact construct_of_ok valid _

/-- A discovery on which no answer fails, which keeps to its limits, keeps every skill that is wanted
and finds room, and is marked as cut short just when a skill is left out because of a limit. -/
structure Discovers (machine : Machine) (config : SkillsConfig) (snapshot : DiscoverySnapshot) :
    Prop where
  discovered : discover machine config = .ok snapshot
  lists : ∃ result, listResult snapshot = .ok result
  contexts : ∀ request, ∃ result, contextResult snapshot request = .ok result ∧
    (result.blocks.map (·.instructions.utf8ByteSize)).sum ≤ maxSkillContextBytes
  reports : ∃ result, statusResult snapshot = .ok result
  distinct : (skillIdsOf snapshot.skills).Nodup
  enabled : ∀ skill ∈ snapshot.skills, config.isDisabled skill.metadata.id = false
  fromRoot : snapshot.skills.Sublist (wanted config [] (loadedSkills machine config))
  keeps : ∀ skill ∈ wanted config [] (loadedSkills machine config),
    skill ∈ snapshot.skills ∨ NoRoom snapshot.skills skill
  few : snapshot.skills.length ≤ maxSkillMetadata
  fewTools : toolSum snapshot.skills ≤ maxSkillToolDeclarations
  short : ∀ skill ∈ snapshot.skills,
    skill.metadata.instructionBytes = skill.instructions.utf8ByteSize ∧
      skill.instructions.utf8ByteSize ≤ maxSkillInstructionBytes
  truncated : snapshot.truncated = true ↔
    LeftOut config (loadedSkills machine config) snapshot.skills

theorem Loadable.short (loadable : Loadable skill) :
    skill.instructions.utf8ByteSize ≤ maxSkillInstructionBytes := by
  have valid := loadable.block
  unfold validateContextBlock validateMultilineText at valid
  rw [Except.check_bind_eq_ok, Except.check_bind_eq_ok, Except.check_bind_eq_ok,
    refuseIf_eq_ok, refuseIf_eq_ok, not_lt] at valid
  exact valid.2.2.1

theorem Discovers.not_fullWithRest (discovers : Discovers machine config snapshot)
    (readable : Readable machine config) :
    ¬ FullWithRest config (loadedSkills machine config) := by
  obtain ⟨other, discovered, -, skills, truncated⟩ := discover_eq_ok readable
  cases discovered.symm.trans discovers.discovered
  have marked := discovers.truncated
  rw [skills, truncated] at marked
  exact truncated_offerAll_iff.mp marked

/-- A discovery gives all that but where the list is full and followed by a skill that is not
wanted: then it is marked as cut short though no skill is left out. -/
theorem discovers_iff (machine : Machine) (config : SkillsConfig)
    (readable : Readable machine config) :
    (∃ snapshot, Discovers machine config snapshot) ↔
      ¬ FullWithRest config (loadedSkills machine config) := by
  constructor
  · rintro ⟨snapshot, discovers⟩
    exact discovers.not_fullWithRest readable
  · intro room
    obtain ⟨snapshot, discovered, serves, skills, truncated⟩ := discover_eq_ok readable
    refine ⟨snapshot, discovered, serves.listResult, serves.contextResult, serves.statusResult,
      serves.distinct, serves.enabled, skills ▸ Discovery.sublist_offerAll_start,
      fun skill among => ?_, serves.few, serves.fewTools, fun skill among => ?_, ?_⟩
    · rw [skills]
      exact Discovery.mem_offerAll_or_noRoom Discovery.sound_start among
    · exact ⟨(serves.loadable skill among).counted, (serves.loadable skill among).short⟩
    · rw [skills, truncated]
      exact truncated_offerAll_iff.mpr room

variable (count : Nat)

/-- A directory name of as many letters. -/
def letters : FileName := List.replicate count 97

/-- Names of the skills of a full root. -/
def isLetters (name : FileName) : Bool :=
  0 < name.length && name.length ≤ 65 && name == letters name.length

/-- Sixty-five directories with an empty `SKILL.md`. -/
def fullNode : List FileName → Option (Node FileName (List UInt8))
  | [] => some .directory
  | [directory] => if isLetters directory = true then some .directory else none
  | [directory, file] =>
      if isLetters directory = true ∧ file = skillFileName then some (.file []) else none
  | _ => none

def fullNames : List FileName → List FileName
  | [] => (List.range 65).map fun index => letters (index + 1)
  | [directory] => if isLetters directory = true then [skillFileName] else []
  | _ => []

theorem isLetters_iff {name : FileName} : isLetters name = true ↔
    ∃ index < 65, letters (index + 1) = name := by
  unfold isLetters
  simp only [Bool.and_eq_true, decide_eq_true_eq, beq_iff_eq]
  constructor
  · rintro ⟨⟨positive, short⟩, same⟩
    refine ⟨name.length - 1, by omega, ?_⟩
    rw [Nat.sub_add_cancel positive]
    exact same.symm
  · rintro ⟨index, small, rfl⟩
    have length : (letters (index + 1)).length = index + 1 := List.length_replicate
    rw [length]
    exact ⟨⟨Nat.succ_pos _, small⟩, rfl⟩

theorem letters_lt {first second : Nat} (less : first < second) :
    letters first < letters second := by
  unfold letters
  induction first generalizing second with
  | zero =>
      obtain ⟨more, rfl⟩ := Nat.exists_eq_add_of_lt less
      exact List.nil_lt_cons _ _
  | succ first ih =>
      obtain ⟨more, rfl⟩ := Nat.exists_eq_add_of_lt less
      change 97 :: List.replicate first 97 < List.replicate (first + 1 + more + 1) (97 : UInt8)
      rw [List.replicate_succ, List.cons_lt_cons_iff]
      exact .inr ⟨rfl, ih (by omega)⟩

def fullTree : FileTree FileName (List UInt8) where
  node := fullNode
  node_root := rfl
  node_parent := by
    intro place notRoot occupied
    rcases place with _ | ⟨directory, _ | ⟨file, _ | ⟨below, rest⟩⟩⟩
    · exact absurd rfl notRoot
    · rfl
    · exact if_pos (ite_ne_right_iff.mp occupied).1.1
    · exact absurd rfl occupied

theorem mem_fullNames (place : List FileName) (name : FileName) :
    name ∈ fullNames place ↔ fullNode (place ++ [name]) ≠ none := by
  rcases place with _ | ⟨directory, _ | ⟨file, rest⟩⟩
  · unfold fullNames fullNode
    simp [isLetters_iff]
  · unfold fullNames fullNode
    by_cases isSkill : isLetters directory = true <;> simp [isSkill]
  · rcases rest with _ | ⟨below, rest⟩
    · exact iff_of_false List.not_mem_nil fun occupied => occupied rfl
    · exact iff_of_false List.not_mem_nil fun occupied => occupied rfl

theorem sorted_fullNames (place : List FileName) : (fullNames place).Pairwise (· < ·) := by
  rcases place with _ | ⟨directory, _ | ⟨file, rest⟩⟩
  · change ((List.range 65).map fun index => letters (index + 1)).Pairwise (· < ·)
    rw [List.pairwise_map]
    exact List.pairwise_lt_range.imp fun less => letters_lt (Nat.succ_lt_succ less)
  · change (if isLetters directory = true then [skillFileName] else []).Pairwise (· < ·)
    split
    · exact List.pairwise_singleton _ _
    · exact List.Pairwise.nil
  · exact List.Pairwise.nil

/-- A machine with a full root at the root of its files. -/
def fullMachine : Machine where
  files := fullTree
  names := fullNames
  listed := mem_fullNames
  sorted := sorted_fullNames
  links := 40
  lossy name := (Utf8.decode name).getD "\uFFFD"
  describe _ := "No such file or directory"
  parseJson _ := .error "expected value"
  refusal _ := "invalid type"

/-- The text of a name of letters. -/
def lettersText : String := String.ofList (List.replicate count 'a')

theorem decode_letters : Utf8.decode (letters count) = some (lettersText count) := by
  rw [Utf8.decode_eq_some, lettersText, String.toList_ofList, letters]
  induction count with
  | zero => rfl
  | succ count ih =>
      rw [List.replicate_succ, List.replicate_succ, Utf8.encode_cons, ← ih]
      rfl

theorem toList_lettersText : (lettersText count).toList = List.replicate count 'a' :=
  String.toList_ofList

theorem utf8ByteSize_lettersText : (lettersText count).utf8ByteSize = count :=
  Strings.utf8ByteSize_replicate rfl count

theorem any_lettersText {test : Char → Bool} (fails : test 'a' = false) (count : Nat) :
    (lettersText count).toList.any test = false := by
  rw [toList_lettersText, List.any_eq_false]
  intro character among
  rw [List.eq_of_mem_replicate among, fails]
  exact Bool.false_ne_true

theorem all_lettersText {test : Char → Bool} (passes : test 'a' = true) (count : Nat) :
    (lettersText count).toList.all test = true := by
  rw [toList_lettersText, List.all_eq_true]
  intro character among
  rw [List.eq_of_mem_replicate among, passes]

theorem lettersText_head : (lettersText (count + 1)).toList.head? = some 'a' := by
  rw [toList_lettersText, List.replicate_succ, List.head?_cons]

theorem isBlank_lettersText : isBlank (lettersText (count + 1)) = false :=
  isBlank_of_head (lettersText_head count) (by decide)

theorem validateSkillText_letters {count : Nat} (field : String)
    (fits : count + 1 ≤ maximum) :
    validateSkillText field (lettersText (count + 1)) maximum false = .ok () := by
  refine validateSkillText_eq_ok.mpr ⟨.inr ?_, ?_, any_lettersText (by decide) _⟩
  · exact isBlank_lettersText count
  · rwa [utf8ByteSize_lettersText]

theorem lettersText_last : (lettersText (count + 1)).toList.getLast? = some 'a' := by
  rw [toList_lettersText, List.replicate_succ', List.getLast?_concat]

/-- Letters pass as identifiers. -/
theorem validateIdentifier_letters {count : Nat} (field : String)
    (fits : count + 1 ≤ maximum) :
    validateIdentifier field (lettersText (count + 1)) maximum = .ok () := by
  unfold validateIdentifier
  rw [Except.check_bind_eq_ok, Except.check_bind_eq_ok, Except.check_bind_eq_ok, refuseIf_eq_ok,
    refuseIf_eq_ok, refuseIf_eq_ok, lettersText_head, lettersText_last,
    all_lettersText (by decide)]
  exact ⟨validateSkillText_letters field fits, by decide, by decide, by decide⟩

theorem validateSkillPath_letters {count : Nat} (fits : count + 1 ≤ 65) :
    validateSkillPath (lettersText (count + 1) ++ "/" ++ "SKILL.md") = .ok () := by
  have path : (lettersText (count + 1) ++ "/" ++ "SKILL.md").toList =
      List.replicate (count + 1) 'a' ++ '/' :: "SKILL.md".toList := by
    rw [String.toList_append, String.toList_append, toList_lettersText, List.append_assoc]
    rfl
  have segments : (List.replicate (count + 1) 'a' ++ '/' :: "SKILL.md".toList).splitOn '/' =
      [List.replicate (count + 1) 'a', "SKILL.md".toList] := by
    rw [List.splitOn_append_cons_self_of_not_mem, List.splitOn_eq_singleton (by decide)]
    intro among
    exact absurd (List.eq_of_mem_replicate among) (by decide)
  unfold validateSkillPath
  rw [Except.check_bind_eq_ok, Except.check_bind_eq_ok, refuseIf_eq_ok, refuseIf_eq_ok, path,
    segments]
  refine ⟨validateSkillText_eq_ok.mpr ⟨.inr (isBlank_append_left _ (isBlank_append_left _
    (isBlank_lettersText count))), ?_, ?_⟩, ?_, ?_⟩
  · rw [String.utf8ByteSize_append, String.utf8ByteSize_append, utf8ByteSize_lettersText]
    exact (Nat.add_le_add_right (Nat.add_le_add_right fits _) _).trans (by decide)
  · rw [String.toList_append, String.toList_append, List.any_append, List.any_append,
      any_lettersText (by decide)]
    decide
  · simp [List.replicate_succ]
  · simp [List.replicate_succ]

variable {disabled : List String}

variable (valid : validateConfig "/" disabled = .ok ())

/-- A configuration of the root with some skills disabled. -/
def lettersConfig : SkillsConfig :=
  ⟨[], "/", disabled, valid⟩

theorem validateConfig_lastDisabled : validateConfig "/" [lettersText 65] = .ok () := by
  have disabled : validateSkillId (lettersText 65) = .ok () := by
    unfold validateSkillId
    rw [refuseIf_eq_ok, lettersText_head, lettersText_last, all_lettersText (by decide)]
    have said : lettersText 65 ≠ "" := Strings.ne_of_head (by rw [lettersText_head]; decide)
    simp [said]
    decide
  unfold validateConfig
  rw [Except.check_bind_eq_ok, checkAll_eq_ok]
  exact ⟨by decide, List.forall_mem_singleton.mpr disabled⟩

/-- The configuration of a full root whose last skill is disabled. -/
def lastDisabled : SkillsConfig := lettersConfig validateConfig_lastDisabled

/-- The configuration of a full root where no skill is disabled. -/
def allEnabled : SkillsConfig :=
  lettersConfig (show validateConfig "/" [] = .ok () by decide)

theorem validateSkill_letters {count : Nat} (fits : count + 1 ≤ 65) :
    validateSkill (lettersText (count + 1)) (lettersText (count + 1))
      ("Instructions for " ++ lettersText (count + 1))
      (lettersText (count + 1) ++ "/" ++ "SKILL.md") 0 [] = .ok () := by
  unfold validateSkill
  simp only [Except.check_bind_eq_ok, refuseIf_eq_ok]
  refine ⟨validateIdentifier_letters _ (fits.trans (by decide)),
    validateSkillText_letters _ (fits.trans (by decide)), ?_, validateSkillPath_letters fits,
    by decide, by decide, rfl⟩
  refine validateSkillText_eq_ok.mpr ⟨.inl rfl, ?_, ?_⟩
  · rw [String.utf8ByteSize_append, utf8ByteSize_lettersText]
    exact (Nat.add_le_add_left fits _).trans (by decide)
  · rw [String.toList_append, List.any_append, any_lettersText (by decide)]
    decide

/-- The skill of a directory of letters. -/
def lettersSkill (index : Fin 65) : DiscoveredSkill where
  metadata := ⟨_, _, _, _, _, _, validateSkill_letters index.isLt⟩
  instructions := ""

section Letters

variable {disabled : List String} (valid : validateConfig "/" disabled = .ok ())
  (index : Fin 65)

theorem isLetters_letters : isLetters (letters (index + 1)) = true :=
  isLetters_iff.mpr ⟨index, index.isLt, rfl⟩

theorem node_directory : fullMachine.files.node [letters (index + 1)] = some .directory :=
  if_pos (isLetters_letters index)

theorem node_skillFile :
    fullMachine.files.node [letters (index + 1), skillFileName] = some (.file []) :=
  if_pos ⟨isLetters_letters index, rfl⟩

theorem node_toolsFile : fullMachine.files.node [letters (index + 1), toolsFileName] = none :=
  if_neg fun isSkill => absurd isSkill.2 (by decide)

theorem canonicalize_skillFile : fullMachine.canonicalize ((lettersConfig valid).root ++
      [.down (letters (index + 1)), .down skillFileName]) =
        .ok [letters (index + 1), skillFileName] :=
  FileTree.canonicalize_of_file (node_skillFile index)

theorem isFile_toolsFile : fullMachine.isFile ((lettersConfig valid).root ++
      [.down (letters (index + 1)), .down toolsFileName]) = false := by
  have missing : fullMachine.canonicalize ((lettersConfig valid).root ++
      [.down (letters (index + 1)), .down toolsFileName]) = .error .notFound := by
    have walked : fullMachine.files.resolve 40 [] ((lettersConfig valid).root ++
        [.down (letters (index + 1)), .down toolsFileName]) =
          .ok [letters (index + 1), toolsFileName] := by
      simp [FileTree.resolve, FileTree.walk, lettersConfig, node_directory, node_toolsFile]
    unfold Machine.canonicalize FileTree.canonicalize
    change (fullMachine.files.resolve 40 [] _ >>= _) = _
    rw [walked]
    exact if_neg (by rw [node_toolsFile]; exact Bool.false_ne_true)
  unfold Machine.isFile
  rw [missing]
  rfl

theorem readBounded_skillFile (text : String) :
    readBounded fullMachine ((lettersConfig valid).root ++
      [.down (letters (index + 1)), .down skillFileName]) text maxSkillFileBytes = .ok [] := by
  have read : fullMachine.readFile ((lettersConfig valid).root ++
      [.down (letters (index + 1)), .down skillFileName]) = .ok [] := by
    refine Except.bind_eq_ok.mpr ⟨_, canonicalize_skillFile valid index, ?_⟩
    rw [node_skillFile]
  unfold readBounded
  rw [read]
  rfl

theorem toAsciiLowercase_letters :
    toAsciiLowercase (lettersText count) = lettersText count := by
  rw [toAsciiLowercase, toList_lettersText, List.map_replicate]
  rfl

theorem loadSkill_letters :
    loadSkill fullMachine (lettersConfig valid) [] (letters (index + 1)) =
      .ok (lettersSkill index) := by
  have block : validateContextBlock (lettersText (index + 1)) "" = .ok () :=
    Except.check_bind_eq_ok.mpr
      ⟨validateIdentifier_letters _ (index.isLt.trans (by decide)), by decide⟩
  have empty : Utf8.decode [] = some "" := Utf8.decode_eq_some.mpr rfl
  have document : splitDocument "" = (⟨none, none⟩, "") := by decide
  have name : fullMachine.lossy (letters (index + 1)) = lettersText (index + 1) := by
    change (Utf8.decode (letters (index + 1))).getD "\uFFFD" = _
    rw [decode_letters, Option.getD_some]
  have file : fullMachine.lossy skillFileName = "SKILL.md" := by
    change (Utf8.decode skillFileName).getD "\uFFFD" = _
    rw [Utf8.decode_eq_some.mpr (show skillFileName = Utf8.encode "SKILL.md".toList from rfl),
      Option.getD_some]
  have metadata := construct_of_ok (validateSkill_letters index.isLt) fun valid =>
    (⟨_, _, _, _, _, _, valid⟩ : SkillMetadata)
  unfold loadSkill
  refine Except.bind_eq_ok.mpr ⟨[], readBounded_skillFile valid index _, ?_⟩
  refine Except.bind_eq_ok.mpr ⟨"", by rw [empty]; rfl, ?_⟩
  refine Except.bind_eq_ok.mpr ⟨lettersText (index + 1), by rw [decode_letters]; rfl, ?_⟩
  simp only [document, toAsciiLowercase_letters, Option.getD_none, List.map_cons, List.map_nil,
    name, file]
  refine Except.bind_eq_ok.mpr
    ⟨⟨_, _, block⟩, Except.mapError_eq_ok.mpr (construct_of_ok block _), ?_⟩
  refine Except.bind_eq_ok.mpr ⟨[], if_pos (isFile_toolsFile valid index), ?_⟩
  exact Except.bind_eq_ok.mpr ⟨_, Except.mapError_eq_ok.mpr metadata, rfl⟩

theorem inspectEntry_letters :
    inspectEntry fullMachine (lettersConfig valid) [] (letters (index + 1)) =
      .loaded (lettersSkill index) := by
  have isDirectory : fullMachine.files.isDirectory ([] ++ [letters (index + 1)]) = true := by
    unfold FileTree.isDirectory
    rw [List.nil_append, node_directory]
    rfl
  have directory : fullMachine.canonicalize ((lettersConfig valid).root ++
      [.down (letters (index + 1))]) = .ok [letters (index + 1)] := by
    refine FileTree.canonicalize_eq_ok.mpr ⟨.of_isDirectory isDirectory, ?_⟩
    rw [node_directory]
    exact Option.some_ne_none _
  have isFile : fullMachine.isFile ((lettersConfig valid).root ++
      [.down (letters (index + 1)), .down skillFileName]) = true := by
    unfold Machine.isFile FileTree.isFile
    rw [canonicalize_skillFile, Except.toOption, Option.any_some, node_skillFile]
    rfl
  unfold inspectEntry
  dsimp only
  rw [if_neg (Bool.eq_false_iff.not.mpr (not_not.mpr isDirectory)), directory]
  dsimp only
  rw [if_neg (not_not.mpr List.nil_prefix), if_neg (by simp [isFile]),
    canonicalize_skillFile]
  dsimp only
  rw [if_neg (not_not.mpr List.nil_prefix), loadSkill_letters]

end Letters

theorem loadedSkills_letters :
    loadedSkills fullMachine (lettersConfig valid) = (List.finRange 65).map lettersSkill := by
  have root : fullMachine.canonicalize (lettersConfig valid).root = .ok [] := rfl
  have names : fullMachine.names [] =
      (List.finRange 65).map fun index : Fin 65 => letters (index + 1) := by
    change (List.range 65).map (fun index => letters (index + 1)) = _
    rw [← List.map_coe_finRange_eq_range, List.map_map]
    rfl
  have loads : ((fun directory =>
      (inspectEntry fullMachine (lettersConfig valid) [] directory).skill?) ∘
        fun index : Fin 65 => letters (index + 1)) = fun index => some (lettersSkill index) := by
    funext index
    rw [Function.comp_apply, inspectEntry_letters]
    rfl
  rw [loadedSkills, root]
  dsimp only
  rw [names, List.filterMap_map, loads, List.filterMap_eq_map']

theorem lettersText_injective : Function.Injective lettersText := by
  intro first second same
  have sizes := congrArg String.utf8ByteSize same
  rwa [utf8ByteSize_lettersText, utf8ByteSize_lettersText] at sizes

theorem lettersSkill_id_injective :
    Function.Injective fun index => (lettersSkill index).metadata.id := by
  intro first second same
  have sameSize := lettersText_injective same
  exact Fin.ext (by omega)

/-- Sixty-four skills take all the room, and the last one is disabled. -/
theorem fullWithRest_letters : FullWithRest lastDisabled (loadedSkills fullMachine lastDisabled) := by
  have isDisabled : ∀ index : Fin 65,
      lastDisabled.isDisabled (lettersSkill index).metadata.id = true ↔ index = Fin.last 64 := by
    intro index
    change [lettersText 65].contains (lettersText (index + 1)) = true ↔ _
    rw [List.contains_iff_mem, List.mem_singleton, lettersText_injective.eq_iff, Fin.ext_iff,
      Fin.val_last]
    omega
  have loaded : loadedSkills fullMachine lastDisabled =
      ((List.finRange 64).map Fin.castSucc).map lettersSkill ++ [lettersSkill (Fin.last 64)] := by
    rw [lastDisabled, loadedSkills_letters, List.finRange_succ_last, List.map_append,
      List.map_singleton]
  have first : wanted lastDisabled [] (((List.finRange 64).map Fin.castSucc).map lettersSkill) =
      ((List.finRange 64).map Fin.castSucc).map lettersSkill := by
    refine wanted_eq_self ?_ ?_ fun _ _ => List.not_mem_nil
    · rintro _ among
      obtain ⟨index, isIndex, rfl⟩ := List.mem_map.mp among
      obtain ⟨early, -, rfl⟩ := List.mem_map.mp isIndex
      rw [Bool.eq_false_iff, ne_eq, isDisabled]
      exact Fin.ne_of_lt (Fin.castSucc_lt_last early)
    · rw [skillIdsOf, List.map_map]
      exact List.Nodup.map lettersSkill_id_injective
        (List.Nodup.map (fun _ _ => Fin.castSucc_inj.mp) (List.nodup_finRange 64))
  have whole := wanted_append_disabled ((isDisabled (Fin.last 64)).mpr rfl) []
    (((List.finRange 64).map Fin.castSucc).map lettersSkill)
  rw [loaded]
  refine ⟨?_, ?_, ?_⟩
  · rw [whole, first, List.length_map, List.length_map, List.length_finRange]
    rfl
  · rw [whole, first, toolSum, List.map_map, List.map_map]
    change ((List.finRange 64).map fun _ => 0).sum ≤ _
    rw [List.map_const', List.sum_replicate_nat]
    exact Nat.zero_le _
  · rw [whole, List.dropLast_concat]

theorem readable_fullMachine : Readable fullMachine (lettersConfig valid) := by
  intro place located
  cases located
  exact FileTree.isDirectory_root

/-- All sixty-five skills are wanted if none is disabled. -/
theorem length_wanted_letters :
    (wanted allEnabled [] (loadedSkills fullMachine allEnabled)).length = 65 := by
  rw [allEnabled, loadedSkills_letters, wanted_eq_self]
  · rw [List.length_map, List.length_finRange]
  · intro skill _
    rfl
  · rw [skillIdsOf, List.map_map]
    exact (List.nodup_finRange 65).map lettersSkill_id_injective
  · exact fun _ _ => List.not_mem_nil

theorem noRoom_letters {skills : List DiscoveredSkill}
    (fromRoot : skills ⊆ loadedSkills fullMachine (lettersConfig valid))
    (isLoaded : skill ∈ loadedSkills fullMachine (lettersConfig valid))
    (noRoom : NoRoom skills skill) : maxSkillMetadata ≤ skills.length := by
  have noTools : ∀ skill ∈ loadedSkills fullMachine (lettersConfig valid),
      skill.metadata.tools.length = 0 := by
    rw [loadedSkills_letters]
    rintro _ among
    obtain ⟨index, -, rfl⟩ := List.mem_map.mp among
    rfl
  obtain ⟨earlier, begins, full | tooMany⟩ := noRoom
  · exact full.trans begins.length_le
  · have none : toolSum earlier = 0 := by
      rw [toolSum, List.map_congr_left fun other isOther =>
        noTools other (fromRoot (begins.subset isOther)), List.map_const', List.sum_replicate_nat,
        Nat.mul_zero]
    rw [none, noTools skill isLoaded] at tooMany
    exact absurd tooMany (by decide)

/-- Of sixty-five skills one is left out, and the list is marked as cut short. -/
theorem discovers_letters : ∃ snapshot, Discovers fullMachine allEnabled snapshot ∧
    snapshot.skills.length = maxSkillMetadata ∧ snapshot.truncated = true := by
  have more : ¬ FullWithRest allEnabled (loadedSkills fullMachine allEnabled) := fun full =>
    absurd (length_wanted_letters.symm.trans full.count) (by decide)
  obtain ⟨snapshot, discovers⟩ :=
    (discovers_iff fullMachine allEnabled (readable_fullMachine _)).mpr more
  have few := discovers.few
  have leftOut : LeftOut allEnabled (loadedSkills fullMachine allEnabled) snapshot.skills := by
    by_contra none
    have all : wanted allEnabled [] (loadedSkills fullMachine allEnabled) ⊆ snapshot.skills := by
      intro skill among
      by_contra out
      exact none ⟨skill, among, out, (discovers.keeps skill among).resolve_left out⟩
    have atMost := (nodup_wanted.subperm all).length_le
    rw [length_wanted_letters] at atMost
    exact absurd (atMost.trans few) (by decide)
  have marked := discovers.truncated.mpr leftOut
  obtain ⟨skill, isWanted, -, noRoom⟩ := leftOut
  have isLoaded := (wanted_sublist _ _).subset isWanted
  have fromRoot := (discovers.fromRoot.trans (wanted_sublist _ _)).subset
  exact ⟨snapshot, discovers, few.antisymm (noRoom_letters _ fromRoot isLoaded noRoom), marked⟩

/-- A list of sixty-four skills is marked as cut short for a disabled one behind them. -/
theorem not_discovers_full : ¬ ∀ (machine : Machine) (config : SkillsConfig),
    Readable machine config → ∃ snapshot, Discovers machine config snapshot := by
  intro always
  obtain ⟨snapshot, discovers⟩ := always fullMachine lastDisabled (readable_fullMachine _)
  exact discovers.not_fullWithRest (readable_fullMachine _) fullWithRest_letters

end ToolSkills
end YunXi
