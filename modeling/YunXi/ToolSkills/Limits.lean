import Mathlib.Data.List.Nodup
import Mathlib.Data.List.Perm.Subperm
import YunXi.ToolSkills.Discovery

/-!
# Limits of a discovery

There is room for so many skills and so many tools.  The check for room comes before those for
disabled and repeated skills, so that a skill which was not wanted can mark a list as cut short.
-/

namespace YunXi
namespace ToolSkills

open Protocol

variable {config : SkillsConfig}

/-- Skills that are enabled and whose identifiers have not come before. -/
def wanted (config : SkillsConfig) : List String → List DiscoveredSkill → List DiscoveredSkill
  | _, [] => []
  | seen, skill :: rest =>
      if config.isDisabled skill.metadata.id = true ∨ skill.metadata.id ∈ seen then
        wanted config seen rest
      else skill :: wanted config (skill.metadata.id :: seen) rest

def toolSum (skills : List DiscoveredSkill) : Nat :=
  (skills.map (·.metadata.tools.length)).sum

def skillIdsOf (skills : List DiscoveredSkill) : List String := skills.map (·.metadata.id)

theorem prefix_wanted {first whole : List DiscoveredSkill} (seen : List String)
    (begins : first <+: whole) : wanted config seen first <+: wanted config seen whole := by
  obtain ⟨rest, rfl⟩ := begins
  induction first generalizing seen with
  | nil => exact List.nil_prefix
  | cons skill first ih =>
      rw [List.cons_append, wanted, wanted]
      split
      · exact ih seen
      · exact List.cons_prefix_cons.mpr ⟨rfl, ih _⟩

/-- What a discovery has kept. -/
structure Discovery.Sound (config : SkillsConfig) (state : Discovery) : Prop where
  distinct : (skillIdsOf state.skills).Nodup
  known : ∀ skill ∈ state.skills, skill.metadata.id ∈ state.skillIds
  enabled : ∀ skill ∈ state.skills, config.isDisabled skill.metadata.id = false
  few : state.skills.length ≤ maxSkillMetadata
  count : state.toolCount = toolSum state.skills
  fewTools : state.toolCount ≤ maxSkillToolDeclarations

theorem Discovery.sound_start : Discovery.start.Sound config where
  distinct := List.nodup_nil
  known := List.forall_mem_nil _
  enabled := List.forall_mem_nil _
  few := Nat.zero_le _
  count := rfl
  fewTools := Nat.zero_le _

/-- A skill that is loaded finds no room, is not wanted, has too many tools, or is kept. -/
inductive Admits (config : SkillsConfig) (state : Discovery) (skill : DiscoveredSkill) :
    Discovery → Prop
  | full (full : maxSkillMetadata ≤ state.skills.length) :
      Admits config state skill { state with truncated := true }
  | unwanted (room : state.skills.length < maxSkillMetadata)
      (unwanted : config.isDisabled skill.metadata.id = true ∨ skill.metadata.id ∈ state.skillIds)
      (warnings : List String) : Admits config state skill { state with warnings }
  | tooMany (room : state.skills.length < maxSkillMetadata)
      (isWanted : ¬ (config.isDisabled skill.metadata.id = true ∨
        skill.metadata.id ∈ state.skillIds))
      (many : maxSkillToolDeclarations < state.toolCount + skill.metadata.tools.length) :
      Admits config state skill
        { state with skillIds := skill.metadata.id :: state.skillIds, truncated := true }
  | kept (room : state.skills.length < maxSkillMetadata)
      (isWanted : ¬ (config.isDisabled skill.metadata.id = true ∨
        skill.metadata.id ∈ state.skillIds))
      (few : state.toolCount + skill.metadata.tools.length ≤ maxSkillToolDeclarations) :
      Admits config state skill
        { state with
          skillIds := skill.metadata.id :: state.skillIds
          toolCount := state.toolCount + skill.metadata.tools.length
          skills := state.skills ++ [skill] }

theorem Discovery.admits (config : SkillsConfig) (state : Discovery) (skill : DiscoveredSkill) :
    Admits config state skill (state.offer config skill) := by
  unfold Discovery.offer
  dsimp only
  split
  · next full => exact .full full
  next notFull =>
  have room := not_le.mp notFull
  split
  · next disabled => exact .unwanted room (.inl disabled) state.warnings
  next enabled =>
  split
  · next known => exact .unwanted room (.inr known) _
  next unknown =>
  split
  · next many => exact .tooMany room (not_or.mpr ⟨enabled, unknown⟩) many
  · next few => exact .kept room (not_or.mpr ⟨enabled, unknown⟩) (not_lt.mp few)

variable {state : Discovery}

theorem Discovery.Sound.offer (sound : state.Sound config)
    (skill : DiscoveredSkill) : (state.offer config skill).Sound config := by
  have admits := state.admits config skill
  generalize state.offer config skill = after at admits ⊢
  cases admits with
  | full => exact ⟨sound.distinct, sound.known, sound.enabled, sound.few, sound.count,
      sound.fewTools⟩
  | unwanted => exact ⟨sound.distinct, sound.known, sound.enabled, sound.few, sound.count,
      sound.fewTools⟩
  | tooMany => exact ⟨sound.distinct, fun other among =>
      List.mem_cons_of_mem _ (sound.known other among), sound.enabled, sound.few, sound.count,
      sound.fewTools⟩
  | kept room isWanted few =>
      obtain ⟨enabled, unknown⟩ := not_or.mp isWanted
      refine ⟨?_, ?_, ?_, ?_, ?_, few⟩
      · unfold skillIdsOf
        rw [List.map_append, List.map_singleton, List.nodup_append]
        refine ⟨sound.distinct, List.pairwise_singleton _ _, ?_⟩
        intro id among other isOther same
        obtain ⟨earlier, isEarlier, rfl⟩ := List.mem_map.mp among
        rw [List.mem_singleton.mp isOther] at same
        exact unknown (same ▸ sound.known earlier isEarlier)
      · intro other among
        rcases List.mem_append.mp among with earlier | isLast
        · exact List.mem_cons_of_mem _ (sound.known other earlier)
        · rw [List.mem_singleton.mp isLast]
          exact List.mem_cons_self
      · intro other among
        rcases List.mem_append.mp among with earlier | isLast
        · exact sound.enabled other earlier
        · rw [List.mem_singleton.mp isLast]
          exact Bool.eq_false_iff.mpr enabled
      · rw [List.length_append, List.length_singleton]
        exact room
      · change state.toolCount + _ = toolSum (state.skills ++ [skill])
        rw [sound.count, toolSum, toolSum, List.map_append, List.sum_append, List.map_singleton,
          List.sum_singleton]

/-- The loop over the skills that are loaded. -/
def Discovery.offerAll (config : SkillsConfig) (state : Discovery)
    (loaded : List DiscoveredSkill) : Discovery :=
  loaded.foldl (Discovery.offer config) state

theorem Discovery.Sound.offerAll (sound : state.Sound config)
    (loaded : List DiscoveredSkill) : (state.offerAll config loaded).Sound config := by
  induction loaded generalizing state with
  | nil => exact sound
  | cons skill rest ih => exact ih (sound.offer skill)

theorem Discovery.truncated_offerAll (truncated : state.truncated = true)
    (loaded : List DiscoveredSkill) : (state.offerAll config loaded).truncated = true := by
  induction loaded generalizing state with
  | nil => exact truncated
  | cons skill rest ih =>
      refine ih ?_
      have admits := state.admits config skill
      generalize state.offer config skill = after at admits ⊢
      cases admits with
      | full => rfl
      | unwanted => exact truncated
      | tooMany => rfl
      | kept => exact truncated

/-- Nothing is kept when there is no room. -/
theorem Discovery.skills_offerAll_of_full
    (full : maxSkillMetadata ≤ state.skills.length) (loaded : List DiscoveredSkill) :
    (state.offerAll config loaded).skills = state.skills := by
  induction loaded generalizing state with
  | nil => rfl
  | cons skill rest ih =>
      change ((state.offer config skill).offerAll config rest).skills = _
      have admits := state.admits config skill
      generalize state.offer config skill = after at admits ⊢
      cases admits with
      | full => exact @ih { state with truncated := true } full
      | unwanted room => exact absurd full (not_le.mpr room)
      | tooMany room => exact absurd full (not_le.mpr room)
      | kept room => exact absurd full (not_le.mpr room)

variable {skill : DiscoveredSkill}

theorem wanted_cons_unwanted {seen : List String}
    (unwanted : config.isDisabled skill.metadata.id = true ∨ skill.metadata.id ∈ seen)
    (rest : List DiscoveredSkill) : wanted config seen (skill :: rest) = wanted config seen rest :=
  if_pos unwanted

theorem wanted_cons_kept {seen : List String}
    (isWanted : ¬ (config.isDisabled skill.metadata.id = true ∨ skill.metadata.id ∈ seen))
    (rest : List DiscoveredSkill) : wanted config seen (skill :: rest) =
      skill :: wanted config (skill.metadata.id :: seen) rest :=
  if_neg isWanted

theorem toolSum_cons (skill : DiscoveredSkill) (rest : List DiscoveredSkill) :
    toolSum (skill :: rest) = skill.metadata.tools.length + toolSum rest := by
  rw [toolSum, List.map_cons, List.sum_cons, ← toolSum]

variable {loaded : List DiscoveredSkill}

/-- Enabled skills with different identifiers are all wanted. -/
theorem wanted_eq_self {seen : List String}
    (enabled : ∀ skill ∈ loaded, config.isDisabled skill.metadata.id = false)
    (distinct : (skillIdsOf loaded).Nodup) (unseen : ∀ id ∈ skillIdsOf loaded, id ∉ seen) :
    wanted config seen loaded = loaded := by
  induction loaded generalizing seen with
  | nil => rfl
  | cons skill rest ih =>
      obtain ⟨isEnabled, enabled⟩ := List.forall_mem_cons.mp enabled
      obtain ⟨unnamed, distinct⟩ := List.nodup_cons.mp distinct
      obtain ⟨isUnseen, unseen⟩ := List.forall_mem_cons.mp unseen
      rw [wanted_cons_kept (not_or.mpr ⟨Bool.eq_false_iff.mp isEnabled, isUnseen⟩),
        ih enabled distinct]
      intro id among repeated
      rcases List.mem_cons.mp repeated with rfl | repeated
      · exact unnamed among
      · exact unseen id among repeated

theorem wanted_append_disabled
    (disabled : config.isDisabled skill.metadata.id = true) (seen : List String)
    (loaded : List DiscoveredSkill) :
    wanted config seen (loaded ++ [skill]) = wanted config seen loaded := by
  induction loaded generalizing seen with
  | nil => exact wanted_cons_unwanted (.inl disabled) []
  | cons other rest ih =>
      rw [List.cons_append, wanted, wanted, ih, ih]

/-- Identifiers of wanted skills are new and differ. -/
theorem wanted_distinct (seen : List String) (loaded : List DiscoveredSkill) :
    (∀ id ∈ skillIdsOf (wanted config seen loaded), id ∉ seen) ∧
      (skillIdsOf (wanted config seen loaded)).Nodup := by
  induction loaded generalizing seen with
  | nil => exact ⟨List.forall_mem_nil _, List.nodup_nil⟩
  | cons skill rest ih =>
      by_cases unwanted : config.isDisabled skill.metadata.id = true ∨ skill.metadata.id ∈ seen
      · rw [wanted_cons_unwanted unwanted]
        exact ih seen
      · obtain ⟨fresh, distinct⟩ := ih (skill.metadata.id :: seen)
        rw [wanted_cons_kept unwanted, skillIdsOf, List.map_cons]
        refine ⟨List.forall_mem_cons.mpr ⟨(not_or.mp unwanted).2, fun id among =>
          List.not_mem_of_not_mem_cons (fresh id among)⟩, List.nodup_cons.mpr ⟨?_, distinct⟩⟩
        exact fun among => fresh _ among List.mem_cons_self

/-- Only skills that are wanted are kept, in the order of the root. -/
theorem Discovery.skills_offerAll (state : Discovery) (loaded : List DiscoveredSkill) :
    ∃ kept, (state.offerAll config loaded).skills = state.skills ++ kept ∧
      kept.Sublist (wanted config state.skillIds loaded) := by
  induction loaded generalizing state with
  | nil => exact ⟨[], (List.append_nil _).symm, List.Sublist.refl _⟩
  | cons skill rest ih =>
      have later := ih (state.offer config skill)
      change ∃ kept, ((state.offer config skill).offerAll config rest).skills = _ ∧ _
      have admits := state.admits config skill
      generalize state.offer config skill = after at admits later ⊢
      obtain ⟨kept, isKept, sublist⟩ := later
      cases admits with
      | full full =>
          have still := @skills_offerAll_of_full config { state with truncated := true } full rest
          exact ⟨[], still.trans (List.append_nil _).symm, List.nil_sublist _⟩
      | unwanted _ unwanted =>
          exact ⟨kept, isKept, wanted_cons_unwanted unwanted rest ▸ sublist⟩
      | tooMany _ isWanted =>
          exact ⟨kept, isKept, wanted_cons_kept isWanted rest ▸ sublist.cons _⟩
      | kept _ isWanted =>
          refine ⟨skill :: kept, isKept.trans (List.append_assoc _ _ _), ?_⟩
          rw [wanted_cons_kept isWanted]
          exact sublist.cons_cons _

/-- A discovery that was not cut short keeps all that is wanted. -/
theorem Discovery.skills_of_not_truncated
    (whole : (state.offerAll config loaded).truncated = false) :
    (state.offerAll config loaded).skills =
      state.skills ++ wanted config state.skillIds loaded := by
  induction loaded generalizing state with
  | nil => exact (List.append_nil _).symm
  | cons skill rest ih =>
      change ((state.offer config skill).offerAll config rest).truncated = false at whole
      change ((state.offer config skill).offerAll config rest).skills = _
      have later := ih whole
      have admits := state.admits config skill
      generalize state.offer config skill = after at admits whole later ⊢
      cases admits with
      | full =>
          have marked := @truncated_offerAll config { state with truncated := true } rfl rest
          exact absurd whole (Bool.not_eq_false _ ▸ marked)
      | unwanted _ unwanted => rw [later, wanted_cons_unwanted unwanted]
      | tooMany =>
          have marked := @truncated_offerAll config { state with
            skillIds := skill.metadata.id :: state.skillIds, truncated := true } rfl rest
          exact absurd whole (Bool.not_eq_false _ ▸ marked)
      | kept _ isWanted =>
          rw [later, wanted_cons_kept isWanted, List.append_assoc, List.singleton_append]

/-- There is room for all that is wanted. -/
structure Discovery.Fits (config : SkillsConfig) (state : Discovery)
    (loaded : List DiscoveredSkill) : Prop where
  few : state.skills.length + (wanted config state.skillIds loaded).length ≤ maxSkillMetadata
  fewTools : state.toolCount + toolSum (wanted config state.skillIds loaded) ≤
    maxSkillToolDeclarations

/-- Where there is room all that is wanted is kept, and the discovery is cut short if a skill
follows the last one that there is room for. -/
theorem Discovery.Fits.offerAll (fits : state.Fits config loaded) :
    (state.offerAll config loaded).skills =
        state.skills ++ wanted config state.skillIds loaded ∧
      ((state.offerAll config loaded).truncated = true ↔ state.truncated = true ∨ loaded ≠ [] ∧
        state.skills.length + (wanted config state.skillIds loaded.dropLast).length =
          maxSkillMetadata) := by
  induction loaded generalizing state with
  | nil => exact ⟨(List.append_nil _).symm, by simp [Discovery.offerAll]⟩
  | cons skill rest ih =>
      obtain ⟨few, fewTools⟩ := fits
      change ((state.offer config skill).offerAll config rest).skills = _ ∧
        (((state.offer config skill).offerAll config rest).truncated = true ↔ _)
      have later := @ih (state.offer config skill)
      have admits := state.admits config skill
      generalize state.offer config skill = after at admits later ⊢
      cases admits with
      | full full =>
          have none : (wanted config state.skillIds (skill :: rest)).length = 0 := by omega
          have still := @skills_offerAll_of_full config { state with truncated := true } full rest
          have marked := @truncated_offerAll config { state with truncated := true } rfl rest
          refine ⟨?_, iff_of_true marked (.inr ⟨List.cons_ne_nil _ _, ?_⟩)⟩
          · rw [still, List.eq_nil_of_length_eq_zero none, List.append_nil]
          · have fewer := (@prefix_wanted config _ _ state.skillIds
              (List.dropLast_prefix (skill :: rest))).length_le
            omega
      | unwanted room unwanted warnings =>
          rw [wanted_cons_unwanted unwanted] at few fewTools ⊢
          obtain ⟨kept, truncated⟩ := later ⟨few, fewTools⟩
          refine ⟨kept, truncated.trans (or_congr_right ?_)⟩
          cases rest with
          | nil => simp [wanted, room.ne]
          | cons next rest =>
              rw [List.dropLast_cons_cons, wanted_cons_unwanted unwanted]
              simp
      | tooMany room isWanted many =>
          rw [wanted_cons_kept isWanted, toolSum_cons] at fewTools
          omega
      | kept room isWanted isFew =>
          rw [wanted_cons_kept isWanted, List.length_cons] at few
          rw [wanted_cons_kept isWanted, toolSum_cons] at fewTools
          have fits : Discovery.Fits config { state with
              skillIds := skill.metadata.id :: state.skillIds
              toolCount := state.toolCount + skill.metadata.tools.length
              skills := state.skills ++ [skill] } rest :=
            ⟨by simp; omega, by simp; omega⟩
          obtain ⟨kept, truncated⟩ := later fits
          refine ⟨?_, truncated.trans (or_congr_right ?_)⟩
          · rw [kept, wanted_cons_kept isWanted, List.append_assoc, List.singleton_append]
          cases rest with
          | nil => simp [wanted, room.ne]
          | cons next rest =>
              rw [List.dropLast_cons_cons, wanted_cons_kept isWanted]
              simp
              omega

/-- At its turn, behind the skills before it, there was no room for a skill or its tools. -/
def NoRoom (skills : List DiscoveredSkill) (skill : DiscoveredSkill) : Prop :=
  ∃ earlier, earlier <+: skills ∧
    (maxSkillMetadata ≤ earlier.length ∨
      maxSkillToolDeclarations < toolSum earlier + skill.metadata.tools.length)

/-- A skill that is wanted is not in a list because of a limit. -/
def LeftOut (config : SkillsConfig)
    (loaded skills : List DiscoveredSkill) : Prop :=
  ∃ skill ∈ wanted config [] loaded, skill ∉ skills ∧ NoRoom skills skill

/-- There are just as many skills as there is room for, and after them one that is not wanted. -/
structure FullWithRest (config : SkillsConfig) (loaded : List DiscoveredSkill) : Prop where
  count : (wanted config [] loaded).length = maxSkillMetadata
  fewTools : toolSum (wanted config [] loaded) ≤ maxSkillToolDeclarations
  rest : wanted config [] loaded.dropLast = wanted config [] loaded

variable {loaded : List DiscoveredSkill}

/-- What is wanted is kept, unless there is no room for it at its turn. -/
theorem Discovery.mem_offerAll_or_noRoom (sound : state.Sound config)
    (isWanted : skill ∈ wanted config state.skillIds loaded) :
    skill ∈ (state.offerAll config loaded).skills ∨
      NoRoom (state.offerAll config loaded).skills skill := by
  induction loaded generalizing state with
  | nil => cases isWanted
  | cons first rest ih =>
      change skill ∈ ((state.offer config first).offerAll config rest).skills ∨
        NoRoom ((state.offer config first).offerAll config rest).skills skill
      have later := ih (sound.offer first)
      obtain ⟨kept, grown, -⟩ := @skills_offerAll config (state.offer config first) rest
      have begins : (state.offer config first).skills <+:
          ((state.offer config first).offerAll config rest).skills :=
        ⟨kept, grown.symm⟩
      have admits := state.admits config first
      generalize state.offer config first = after at admits later begins ⊢
      cases admits with
      | full full => exact .inr ⟨state.skills, begins, .inl full⟩
      | unwanted room unwanted =>
          rw [wanted_cons_unwanted unwanted] at isWanted
          exact later isWanted
      | tooMany room firstWanted many =>
          rw [wanted_cons_kept firstWanted, List.mem_cons] at isWanted
          rcases isWanted with rfl | among
          · exact .inr ⟨state.skills, begins, .inr (sound.count ▸ many)⟩
          · exact later among
      | kept room firstWanted few =>
          rw [wanted_cons_kept firstWanted, List.mem_cons] at isWanted
          rcases isWanted with rfl | among
          · exact .inl (begins.subset (List.mem_append_right _ (List.mem_singleton_self _)))
          · exact later among

theorem Discovery.sublist_offerAll_start :
    (Discovery.start.offerAll config loaded).skills.Sublist (wanted config [] loaded) := by
  obtain ⟨kept, isKept, sublist⟩ := @skills_offerAll config .start loaded
  rw [isKept]
  exact sublist

theorem nodup_wanted : (wanted config [] loaded).Nodup :=
  List.Nodup.of_map _ (wanted_distinct [] loaded).2

theorem fits_start : Discovery.start.Fits config loaded ↔
    (wanted config [] loaded).length ≤ maxSkillMetadata ∧
      toolSum (wanted config [] loaded) ≤ maxSkillToolDeclarations := by
  constructor
  · rintro ⟨few, fewTools⟩
    exact ⟨(Nat.zero_add _).symm.trans_le few, (Nat.zero_add _).symm.trans_le fewTools⟩
  · rintro ⟨few, fewTools⟩
    exact ⟨(Nat.zero_add _).trans_le few, (Nat.zero_add _).trans_le fewTools⟩

/-- A skill is left out just when there is no room for all that is wanted. -/
theorem leftOut_iff_not_fits :
    LeftOut config loaded (Discovery.start.offerAll config loaded).skills ↔
      ¬ Discovery.start.Fits config loaded := by
  constructor
  · rintro ⟨skill, among, out, -⟩ fits
    rw [fits.offerAll.1] at out
    exact out among
  · intro unfit
    by_contra none
    have all : wanted config [] loaded ⊆ (Discovery.start.offerAll config loaded).skills := by
      intro skill among
      by_contra out
      exact none ⟨skill, among, out,
        (Discovery.mem_offerAll_or_noRoom Discovery.sound_start among).resolve_left out⟩
    have whole : (Discovery.start.offerAll config loaded).skills = wanted config [] loaded :=
      Discovery.sublist_offerAll_start.eq_of_length_le (nodup_wanted.subperm all).length_le
    have sound := (@Discovery.sound_start config).offerAll loaded
    have few := sound.few
    have fewTools := sound.fewTools
    rw [sound.count] at fewTools
    rw [whole] at few fewTools
    exact unfit (fits_start.mpr ⟨few, fewTools⟩)

/-- A list is marked as cut short if a skill is left out, or if the last skill that is wanted takes
the last room and is not the last skill. -/
theorem truncated_offerAll_iff : ((Discovery.start.offerAll config loaded).truncated = true ↔
        LeftOut config loaded (Discovery.start.offerAll config loaded).skills) ↔
      ¬ FullWithRest config loaded := by
  rw [leftOut_iff_not_fits]
  by_cases fits : Discovery.start.Fits config loaded
  · obtain ⟨few, fewTools⟩ := fits_start.mp fits
    have fewer := @prefix_wanted config _ _ [] (List.dropLast_prefix loaded)
    rw [fits.offerAll.2, iff_false_right (not_not.mpr fits), not_iff_not]
    constructor
    · rintro (marked | ⟨-, count⟩)
      · exact absurd marked Bool.false_ne_true
      · have isWhole := (Nat.zero_add _).symm.trans count
        have rest := fewer.eq_of_length_le (few.trans isWhole.ge)
        exact ⟨rest ▸ isWhole, fewTools, rest⟩
    · rintro ⟨count, -, rest⟩
      refine .inr ⟨?_, (Nat.zero_add _).trans (rest.symm ▸ count)⟩
      rintro rfl
      exact absurd count.symm (Nat.succ_ne_zero 63)
  · have truncated : (Discovery.start.offerAll config loaded).truncated = true := by
      by_contra whole
      have kept := Discovery.skills_of_not_truncated (Bool.eq_false_iff.mpr whole)
      refine leftOut_iff_not_fits.mpr fits |>.elim fun skill ⟨among, out, _⟩ => out ?_
      rw [kept]
      exact among
    exact iff_of_true (iff_of_true truncated fits) fun full =>
      fits (fits_start.mpr ⟨full.count.le, full.fewTools⟩)

end ToolSkills
end YunXi
