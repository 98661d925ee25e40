import YunXi.Memory.Store

/-!
# Recall

A recall hands two parts to the context of a model.  The boot part holds what is important whatever
is asked, and the dynamic part what bears on the query, or the whole time line when the query
asks for one.  Both are bounded in records and in characters.
-/

namespace YunXi
namespace Memory

open Protocol Selection

def maxQueryChars : Nat := 16 * 1024
def bootMaxRecords : Nat := 6
def bootBudgetChars : Nat := 1000
def dynamicMaxRecords : Nat := 8
def dynamicBudgetChars : Nat := 1200
def recallRelevanceThreshold : Float32 := 2.0
def bootMinConfidence : Float32 := 0.6
def bootMinImportance : Float32 := 0.4

structure MemoryRecallRequest where
  query : String
  includeBootContext : Bool

structure MemoryRecallResult where
  workspaceFingerprint : String
  boot : List MemoryContextRecord
  dynamic : List MemoryContextRecord
  warnings : List String
  truncated : Bool

def isGraphMemory : MemoryKind → Bool
  | .preference | .correction | .relationshipNote | .emotionalState | .goal | .projectContext
  | .event => true
  | .personalFact | .toolTraceSummary => false

def isRelationshipTimelineQuery (query : String) : Bool :=
  containsAny query
    ["关系变化", "感情变化", "时间线", "什么时候", "之前发生", "relationship timeline",
      "how has our relationship", "when did"]

def isBootCandidate (record : StoredMemoryRecord) : Bool :=
  record.confidence ≥ bootMinConfidence && record.importance ≥ bootMinImportance &&
    (match record.layer with
    | .profile | .preference | .relationship | .workspace => true
    | .episode | .toolTrace | .unknown => false) &&
    (match record.kind with
    | .preference | .personalFact | .relationshipNote | .projectContext | .correction => true
    | .emotionalState | .goal | .event | .toolTraceSummary => false)

def bootScore (record : StoredMemoryRecord) : Float32 :=
  let layerBonus : Float32 := match record.layer with
    | .preference | .workspace => 1.0
    | .profile | .relationship => 0.75
    | .episode | .toolTrace | .unknown => 0.0
  record.importance * 2.0 + record.confidence + layerBonus

def projectWords : List String :=
  ["项目", "仓库", "代码", "源码", "workspace", "repo", "project"]

def kindTriggerMatches (kind : MemoryKind) (query content : String) : Bool :=
  match kind with
  | .projectContext | .toolTraceSummary =>
      containsAny query projectWords && containsAny content projectWords
  | .personalFact => containsAny query ["我", "我的", "个人", "偏好", "profile", "me", "my"]
  | .goal => containsAny query ["目标", "计划", "下一步", "goal", "plan"]
  | .correction => containsAny query ["要求", "约束", "不要", "纠正", "rule", "constraint"]
  | .relationshipNote | .emotionalState =>
      containsAny query ["关系", "情绪", "感受", "relationship", "emotion"]
  | .preference | .event => false

/-- `text.split_whitespace()`. -/
def splitWords (text : String) : List String :=
  ((text.toList.splitOnP isWhiteSpace).filter (· ≠ [])).map String.ofList

def scoreRecord (record : StoredMemoryRecord) (query : String) : Float32 :=
  let queryLower := toAsciiLowercase query
  let contentLower := toAsciiLowercase record.content
  let terms := (splitWords queryLower).filter fun term => term.utf8ByteSize ≥ 2
  let score : Float32 := terms.foldl (fun score term =>
    if containsText contentLower term then score + 2.0 else score) 0.0
  let score := match record.scope with
    | .workspace _ => score + 0.5
    | .globalUser | .agentIdentity | .relationship => score
  let score :=
    if kindTriggerMatches record.kind queryLower contentLower then score + 2.0 else score
  if score > 0.0 then score + (record.importance + record.confidence * 0.5) else score

/-- `left.partial_cmp(&right).unwrap_or(Ordering::Equal)`. -/
def compareScores (left right : Float32) : Ordering :=
  if left < right then .lt else if left > right then .gt else .eq

def compareBoot (left right : StoredMemoryRecord) : Ordering :=
  (compareScores (bootScore right) (bootScore left)).then (compareLatest left right)

def compareRelevance (query : String) (left right : StoredMemoryRecord) : Ordering :=
  (compareScores (scoreRecord right query) (scoreRecord left query)).then
    (compareLatest left right)

def compareTimeline (left right : StoredMemoryRecord) : Ordering :=
  (compare right.orderingTime left.orderingTime).then (compare left.id right.id)

section Parts

variable (load : MemoryLoad) (workspaceFingerprint query : String) (includeBootContext : Bool)
  (now : Nat)

/-- The record is neither sensitive nor of another workspace. -/
def isShareable (record : StoredMemoryRecord) : Bool :=
  record.sensitivity ≠ .high && record.scope.matchesWorkspace workspaceFingerprint

def recallable : List StoredMemoryRecord :=
  load.records.filter fun record =>
    isShareable workspaceFingerprint record && record.isRecallable now

/-- What a query for a time line is also given: records that hold no longer, or not yet. -/
def historical : List StoredMemoryRecord :=
  load.records.filter fun record =>
    isShareable workspaceFingerprint record && !record.isRecallable now &&
      (isRelationshipTimelineQuery query && record.status = .active &&
        isGraphMemory record.kind)

def bootCandidates : List StoredMemoryRecord :=
  (recallable load workspaceFingerprint now).filter fun record =>
    isBootCandidate record &&
      !(isRelationshipTimelineQuery query && isGraphMemory record.kind)

def bootPart : Filled StoredMemoryRecord :=
  if includeBootContext then
    fill StoredMemoryRecord.chars bootMaxRecords bootBudgetChars 0 0
      (sortBy compareBoot (bootCandidates load workspaceFingerprint query now))
  else ⟨[], false⟩

def dynamicCandidates : List StoredMemoryRecord :=
  let bootIds :=
    (bootPart load workspaceFingerprint query includeBootContext now).taken.map (·.id)
  let candidates :=
    (recallable load workspaceFingerprint now).filter (fun record => !bootIds.contains record.id) ++
      historical load workspaceFingerprint query now
  if isRelationshipTimelineQuery query then sortBy compareTimeline candidates
  else
    sortBy (compareRelevance query)
      (candidates.filter fun record =>
        !isBlank query && scoreRecord record query ≥ recallRelevanceThreshold)

def dynamicPart : Filled StoredMemoryRecord :=
  fill StoredMemoryRecord.chars dynamicMaxRecords dynamicBudgetChars 0 0
    (dynamicCandidates load workspaceFingerprint query includeBootContext now)

/-- `recall_loaded`. -/
def recallLoaded : MemoryRecallResult :=
  let boot := bootPart load workspaceFingerprint query includeBootContext now
  let dynamic := dynamicPart load workspaceFingerprint query includeBootContext now
  { workspaceFingerprint
    boot := boot.taken.map (·.toContextRecord)
    dynamic := dynamic.taken.map (·.toContextRecord)
    warnings := load.warnings
    truncated := boot.leftOut || dynamic.leftOut }

end Parts

inductive MemoryRecallError
  | store (error : MemoryStoreError)
  | queryTooLong (maximum : Nat)

/-- `recall`, from the store that `MemoryStore::for_workspace` gives. -/
def recallMemories (deserialize : String → Except String StoredMemoryRecord)
    (disk : String → FileAnswer) (forWorkspace : Except MemoryStoreError MemoryStore)
    (request : MemoryRecallRequest) (now : Nat) : Except MemoryRecallError MemoryRecallResult := do
  if request.query.length > maxQueryChars then throw (.queryTooLong maxQueryChars)
  let store ← forWorkspace.mapError .store
  return recallLoaded (store.load deserialize disk) store.workspaceFingerprint request.query
    request.includeBootContext now

end Memory
end YunXi
