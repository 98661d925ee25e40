import Mathlib.Data.Prod.Lex
import YunXi.Memory.Store
import YunXi.Program.Fallible

/-!
# Extracting memories

An extraction goes through the candidates that its detectors find in a prompt.  A candidate is
stored unless it looks like a secret or a record of the load has its key, and it waits for a review
if it is sensitive or says another language than an active record of the load.
-/

namespace YunXi
namespace Memory

open Fallible
open Protocol Strings Selection

def maxPromptChars : Nat := 64 * 1024
def maxResponseChars : Nat := 128 * 1024

/-- What a memory is extracted from; the first field is `grant().allows_next_write()`. -/
structure MemoryWriteRequest where
  allowsNextWrite : Bool
  prompt : String
  assistantResponse : Option String
  sourceSessionId : Option String

inductive MemoryWriteStatus
  | active
  | pending
  | rejected
  | discarded
  deriving DecidableEq

def MemoryStatus.protocolStatus : MemoryStatus → MemoryWriteStatus
  | active => .active
  | pending => .pending
  | rejected | archived => .rejected

structure MemoryWriteSummary where
  id : Option String
  kind : MemoryKind
  content : String
  status : MemoryWriteStatus
  reason : String
  deriving DecidableEq

structure MemoryWriteResult where
  records : List MemoryWriteSummary
  warnings : List String

inductive MemoryWriteError
  | store (error : MemoryStoreError)
  | writeNotGranted
  | promptTooLong (maximum : Nat)
  | responseTooLong (maximum : Nat)

structure Candidate where
  kind : MemoryKind
  content : String
  reason : String
  deriving DecidableEq

variable (value : String)

def compact (maximum : Nat) : String :=
  if value.length ≤ maximum then value
  else String.ofList (value.toList.take (maximum - 3)) ++ "..."

/-- The characters `trim_payload` strips in front. -/
def isPayloadStart (character : Char) : Bool :=
  "：:，,。.；; ".toList.contains character

/-- The characters `trim_payload` strips at the end. -/
def isPayloadEnd (character : Char) : Bool :=
  "。.；;，, ".toList.contains character

def trimPayload : String :=
  let value := trimText value
  let value := trimText (String.ofList (value.toList.dropWhile isPayloadStart))
  trimText (trimEndMatches isPayloadEnd value)

def followupMarkers : List String :=
  ["请只回复", "只回复", "不用解释", "不要解释", "only reply", "reply only", "respond only",
    "do not explain", "don't explain"]

def trimFollowup : String :=
  let lower := (toAsciiLowercase value).toList
  let found := followupMarkers.filterMap fun marker => findText marker.toList lower
  trimPayload (String.ofList (value.toList.take (found.foldl min value.length)))

def memoryMarkers : List String :=
  ["我希望你记住", "请你记住", "请记住", "帮我记住", "你要记住", "please remember that",
    "please remember", "remember that", "keep in mind that"]

/-- The payload behind one marker, if there is one. -/
def payloadBehind (lower marker : String) : Option String := do
  let start ← findText marker.toList lower.toList
  let payload :=
    trimFollowup (trimPayload (String.ofList (value.toList.drop (start + marker.length))))
  if payload.isEmpty then none else some payload

def explicitMemoryPayload (lower : String) : Option String :=
  memoryMarkers.findSome? (payloadBehind value lower)

def classifyExplicitKind : MemoryKind :=
  let lower := toAsciiLowercase value
  if containsAny value
      ["偏好", "喜欢", "希望", "以后", "prefer", "preference", "from now on", "by default"] then
    .preference
  else if containsText value "目标" || containsText lower "goal" then .goal
  else if containsAny value ["项目", "硬性要求", "硬约束", "project"] then .projectContext
  else if containsText value "关系" || containsText lower "relationship" then .relationshipNote
  else if containsAny value ["情绪", "感到", "emotion"] then .emotionalState
  else .personalFact

def normalizeExplicitContent (kind : MemoryKind) (payload : String) : String :=
  let payload := compact payload 180
  match kind with
  | .preference => "用户偏好：" ++ payload
  | .goal => "用户目标：" ++ payload
  | .projectContext => "项目上下文：" ++ payload
  | .relationshipNote => "关系事件候选：" ++ payload
  | .emotionalState => "情绪状态候选：" ++ payload
  | .personalFact => "用户自述事实候选：" ++ payload
  | .correction => "用户纠正/限制：" ++ payload
  | .event => "事件候选：" ++ payload
  | .toolTraceSummary => "工具轨迹摘要：" ++ payload

def detectExplicit (lower : String) : Option Candidate :=
  (explicitMemoryPayload value lower).map fun payload =>
    let kind := classifyExplicitKind payload
    ⟨kind, normalizeExplicitContent kind payload,
      "rule:explicit-remember-" ++ kind.storageKey⟩

/-- A detector: the candidate it gives for the prompt if its test holds. -/
def detected (test : Bool) (kind : MemoryKind) (content reason : String) : Option Candidate :=
  if test then some ⟨kind, content, reason⟩ else none

def wantsChinese : Bool :=
  (containsText value "以后" && containsAny value ["中文", "说中文"]) ||
    containsAny value ["说中文", "用中文"]

def wantsEnglish (lower : String) : Bool :=
  containsAny value ["英文", "英语", "english"] &&
    (containsText value "以后" ||
      containsAny lower
        ["from now on", "by default", "answer in english", "reply in english", "use english"])

/-- What the rules after the first make of a prompt. -/
def detectByRules (lower : String) : List (Option Candidate) :=
  [detected (wantsChinese value) .preference "用户偏好后续默认使用中文交流。"
      "rule:language-preference",
    detected (wantsEnglish value lower) .preference "用户偏好后续默认使用英文交流。"
      "rule:language-preference",
    detected (containsText value "不要" || containsText lower "do not") .correction
      ("用户纠正/限制：" ++ compact value 160) "rule:correction",
    detected (containsText value "硬性要求" || containsText value "硬约束") .projectContext
      ("项目硬性约束：" ++ compact value 180) "rule:project-hard-constraint",
    detected (containsText value "我的" || containsText lower "my ") .personalFact
      ("用户自述事实候选：" ++ compact value 160) "rule:self-disclosure",
    detected (containsText value "关系" || containsText lower "relationship") .relationshipNote
      ("关系事件候选：" ++ compact value 160) "rule:relationship-note",
    detected (containsAny value ["情绪", "感到", "i feel", "emotion"]) .emotionalState
      ("情绪状态候选：" ++ compact value 160) "rule:emotional-state",
    detected (containsText value "目标" || containsText lower "my goal") .goal
      ("目标候选：" ++ compact value 160) "rule:goal"]

def detectPromptMemories (prompt : String) : List Candidate :=
  let value := trimText prompt
  if value.isEmpty then []
  else
    let lower := toAsciiLowercase value
    (detectExplicit value lower :: detectByRules value lower).reduceOption

/-- Of the candidates of one kind and content the first is kept. -/
def deduplicateCandidates (candidates : List Candidate) : List Candidate :=
  bestOf (fun candidate => toLex (candidate.kind.rank, candidate.content)) (fun _ _ => false)
    candidates

def scopeForKind (fingerprint : String) : MemoryKind → MemoryScope
  | .projectContext | .correction | .toolTraceSummary => .workspace fingerprint
  | .relationshipNote | .emotionalState => .relationship
  | .preference | .personalFact | .goal | .event => .globalUser

def writeStatus (kind : MemoryKind) (sensitivity : MemorySensitivity) : MemoryStatus :=
  if sensitivity ≠ .low then .pending
  else
    match kind with
    | .preference | .correction | .projectContext => .active
    | .personalFact | .relationshipNote | .emotionalState | .goal | .event
    | .toolTraceSummary => .pending

def secretMarkers : List String :=
  ["api key", "apikey", "authorization:", "bearer ", "password", "token", "secret", "sk-",
    "github_pat_", "ghp_"]

def containsSecret : Bool :=
  secretMarkers.any (containsText (toAsciiLowercase value))

def classifySensitivity : MemorySensitivity :=
  if containsSecret value then .high
  else if containsAny value
        ["health", "medical", "finance", "bank", "emotion", "relationship", "情绪", "关系",
          "健康", "财务", "身份证", "银行卡"] ||
      containsText (toAsciiLowercase value) "private" then
    .medium
  else .low

/-- `value.ends_with(ending)`. -/
def endsWith (ending : String) : Bool := ending.toList.isSuffixOf value.toList

/-- The key ends with one of the two languages. -/
def saysLanguage (key : String) : Bool := endsWith key "language:zh" || endsWith key "language:en"

def languageConflict (records : List StoredMemoryRecord) (incoming : StoredMemoryRecord) :
    Option StoredMemoryRecord :=
  if incoming.kind ≠ .preference then none
  else
    let key := incoming.dedupKey
    if !saysLanguage key then none
    else
      records.find? fun record =>
        record.kind = .preference && record.status = .active && record.dedupKey ≠ key &&
          saysLanguage record.dedupKey

def summary (record : StoredMemoryRecord) (reason : String) : MemoryWriteSummary :=
  ⟨some record.id, record.kind, record.content, record.status.protocolStatus, reason⟩

/-- What an extraction changes: the counter of the ids, and what was appended to which file. -/
structure Journal where
  nextCounter : Nat
  appends : Nat
  written : List (String × StoredMemoryRecord)

/-- The programs an extraction is made of. -/
abbrev WriteProgram (α : Type) := Fallible Journal MemoryWriteError α

def generateMemoryId (now : Nat) : WriteProgram String :=
  ofFunction fun journal =>
    (.ok ("yn-mem-" ++ toString now ++ "-" ++ toString journal.nextCounter),
      { journal with nextCounter := journal.nextCounter + 1 })

/-- The outside of an extraction. -/
structure Outside where
  /-- `serde_json::from_str` of a line. -/
  deserialize : String → Except String StoredMemoryRecord
  /-- The length of what `serde_json::to_vec` gives for a record. -/
  serializedSize : StoredMemoryRecord → Except String Nat
  disk : String → FileAnswer
  /-- The error of creating the directory at one append, if there is one. -/
  directoryFault : Nat → Option String
  /-- The error of writing the line at one append, if there is one. -/
  writeFault : Nat → Option String
  now : Nat

def MemoryStore.appendRoot (store : MemoryStore) (record : StoredMemoryRecord) : String :=
  match record.scope with
  | .workspace _ => store.nextWorkspaceRoot
  | .globalUser | .agentIdentity | .relationship => store.nextGlobalRoot

def appendFileName (record : StoredMemoryRecord) : String :=
  if record.status = .pending then "pending.jsonl"
  else
    match record.scope with
    | .workspace _ => "workspace-memory.jsonl"
    | .globalUser | .agentIdentity | .relationship => "global-memory.jsonl"

/-- `MemoryStore::append`. -/
def MemoryStore.append (store : MemoryStore) (outside : Outside) (record : StoredMemoryRecord) :
    WriteProgram Unit := do
  let journal ← get
  let root := store.appendRoot record
  let path := joinPath root (appendFileName record)
  modify fun journal => { journal with appends := journal.appends + 1 }
  match outside.directoryFault journal.appends with
  | some error => throw (.store (.io root error))
  | none =>
      match outside.serializedSize record with
      | .error error => throw (.store (.serialize error))
      | .ok size =>
          throwIf (size > maxMemoryLineBytes)
            (.store (.recordTooLarge maxMemoryLineBytes))
          match outside.writeFault journal.appends with
          | some error => throw (.store (.io path error))
          | none =>
              modify fun journal =>
                { journal with written := journal.written ++ [(path, record)] }

section Extraction

variable (store : MemoryStore) (outside : Outside) (request : MemoryWriteRequest)
  (load : MemoryLoad)

/-- The record a candidate is stored as, before the load is looked at. -/
def candidateRecord (id : String) (candidate : Candidate) : StoredMemoryRecord :=
  let sensitivity := classifySensitivity candidate.content
  { StoredMemoryRecord.new id (scopeForKind store.workspaceFingerprint candidate.kind)
      candidate.kind candidate.content outside.now with
    sensitivity
    status := writeStatus candidate.kind sensitivity
    sourceSessionId := request.sourceSessionId }

/-- The record with the review that a conflict asks for. -/
def reviewed (record : StoredMemoryRecord) : StoredMemoryRecord :=
  match languageConflict load.records record with
  | none => record
  | some conflicting =>
      { record with
        status := .pending
        invalidation := { record.invalidation with
          conflictsWith := record.invalidation.conflictsWith ++ [conflicting.id] } }

def redacted (candidate : Candidate) : MemoryWriteSummary :=
  ⟨none, candidate.kind, "[redacted: secret-like memory was not stored]", .discarded,
    "privacy:secret-like-content"⟩

/-- One pass of the loop of `extract_and_store`. -/
def storeCandidate (candidate : Candidate) : WriteProgram MemoryWriteSummary := do
  if containsSecret candidate.content || containsSecret request.prompt then
    return redacted candidate
  else
    let id ← generateMemoryId outside.now
    let record := candidateRecord store outside request id candidate
    match load.records.find? fun existing => existing.dedupKey = record.dedupKey with
    | some existing => return summary existing (candidate.reason ++ ":deduplicated")
    | none => do
        let record := reviewed load record
        store.append outside record
        return summary record candidate.reason

/-- The loop of `extract_and_store`. -/
def storeCandidates : List Candidate → WriteProgram (List MemoryWriteSummary)
  | [] => return []
  | candidate :: rest => do
      let first ← storeCandidate store outside request load candidate
      let others ← storeCandidates rest
      return first :: others

end Extraction

/-- `extract_and_store`, with the store that `MemoryStore::from_grant` gives. -/
def extractAndStore (fromGrant : Except MemoryStoreError MemoryStore) (outside : Outside)
    (request : MemoryWriteRequest) : WriteProgram MemoryWriteResult := do
  throwIf (request.allowsNextWrite = false) .writeNotGranted
  throwIf (request.prompt.length > maxPromptChars) (.promptTooLong maxPromptChars)
  throwIf (request.assistantResponse.any (·.length > maxResponseChars) = true)
    (.responseTooLong maxResponseChars)
  let store ← Fallible.ofExcept (fromGrant.mapError .store)
  let load := store.load outside.deserialize outside.disk
  let summaries ← storeCandidates store outside request load
    (deduplicateCandidates (detectPromptMemories request.prompt))
  return ⟨summaries, load.warnings⟩

end Memory
end YunXi
