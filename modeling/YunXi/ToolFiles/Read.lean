import YunXi.Program.Utf8
import YunXi.ToolFiles.Workspace

/-!
# Bounded file reads

A read takes one byte more than its limit to see whether the file goes on, cuts the bytes at the
limit and then decodes them.  Where the limit cuts a character in two, a valid text is refused.
-/

namespace YunXi
namespace ToolFiles

open Utf8 (encode)

variable {ν : Type} [DecidableEq ν]

def maxReadBytes : Nat := 1024 * 1024

structure FileReadRequest (ν : Type) where
  grant : WorkspaceGrant ν
  path : FilePath ν
  maxBytes : Nat

structure FileReadResult where
  path : String
  content : String
  bytes : Nat
  truncated : Bool
  deriving DecidableEq

/-- `read_file`. -/
def readFile (machine : Machine ν) (request : FileReadRequest ν) :
    Except (FileToolError ν) FileReadResult := do
  ensureReadGrant request.grant
  refuseIf (request.maxBytes = 0 ∨ request.maxBytes > maxReadBytes) .invalidLimit
  let root ← machine.canonicalize request.grant.root
  let target ← machine.resolveFile root request.path
  let file ← (machine.files.read machine.links target).mapError (.read (.ofPlace target))
  let bytes := file.take (request.maxBytes + 1)
  let truncated := decide (bytes.length > request.maxBytes)
  let bytes := if truncated then bytes.take request.maxBytes else bytes
  match Utf8.decode bytes with
  | none => .error (.notUtf8 target)
  | some content => return ⟨machine.relativePath root target, content, bytes.length, truncated⟩

/-- The path of a request leads to a regular file of the workspace. -/
structure NamesFile (machine : Machine ν) (request : FileReadRequest ν) (root target : List ν)
    (file : List UInt8) : Prop where
  named : request.grant.root.isEmpty = false
  readable : request.grant.legacyRead = true
  isRoot : machine.canonicalize request.grant.root = .ok root
  isTarget : machine.canonicalize (request.path.join root) = .ok target
  below : root <+: target
  isFile : machine.files.node target = some (.file file)

/-- A file is read up to the limit, and the read says whether the file goes on. -/
def ReadsBounded (machine : Machine ν) (request : FileReadRequest ν) (file : List UInt8) : Prop :=
  ∃ result, readFile machine request = .ok result ∧
    encode result.content.toList <+: file ∧
    (encode result.content.toList).length ≤ request.maxBytes ∧
    result.bytes = (encode result.content.toList).length ∧
    (result.truncated = true ↔ result.bytes < file.length)

/-- The limit is one of the tool, and cuts no character of the text in two. -/
structure CutsWhole (maxBytes : Nat) (text : List Char) : Prop where
  positive : 0 < maxBytes
  bounded : maxBytes ≤ maxReadBytes
  whole : (encode text).length ≤ maxBytes ∨
    ∃ first, first <+: text ∧ (encode first).length = maxBytes

/-- One byte more shows whether the file goes on. -/
theorem length_take_succ_gt {file : List UInt8} {most : Nat} :
    (file.take (most + 1)).length > most ↔ most < file.length := by
  rw [List.length_take]
  omega

theorem take_take_succ (file : List UInt8) (most : Nat) :
    (if decide (most < file.length) = true then (file.take (most + 1)).take most
      else file.take (most + 1)) = file.take most := by
  split
  · rw [List.take_take, Nat.min_eq_left (Nat.le_succ most)]
  · next short =>
    rw [decide_eq_true_iff] at short
    rw [List.take_of_length_le (by omega), List.take_of_length_le (by omega)]

/-- What is read of a file with a limit of the tool is what the bytes up to the limit say. -/
theorem readFile_eq_ok {machine : Machine ν} {request : FileReadRequest ν} {root target : List ν}
    {file : List UInt8} (names : NamesFile machine request root target file)
    {result : FileReadResult} :
    readFile machine request = .ok result ↔
      (0 < request.maxBytes ∧ request.maxBytes ≤ maxReadBytes) ∧
        ∃ content, Utf8.decode (file.take request.maxBytes) = some content ∧
          result =
            { path := machine.relativePath root target
              content
              bytes := (file.take request.maxBytes).length
              truncated := decide (request.maxBytes < file.length) } := by
  have granted := ensureReadGrant_eq_ok.mpr ⟨names.named, names.readable⟩
  have resolved : machine.resolveFile root request.path = .ok target :=
    resolveFile_eq_ok.mpr ⟨names.isTarget, names.below,
      FileTree.isFile_eq_true.mpr ⟨file, names.isFile⟩⟩
  have read : machine.files.read machine.links target = .ok file :=
    FileTree.read_of_file names.isFile
  have limit : ¬ (request.maxBytes = 0 ∨ request.maxBytes > maxReadBytes) ↔
      0 < request.maxBytes ∧ request.maxBytes ≤ maxReadBytes := by
    rw [not_or, Nat.pos_iff_ne_zero, gt_iff_lt, not_lt]
  unfold readFile
  rw [granted, Except.check_bind_eq_ok, Except.check_bind_eq_ok, refuseIf_eq_ok, limit, names.isRoot]
  simp only [Except.bind_eq_ok, Except.ok.injEq, exists_eq_left', resolved, read, true_and,
    Except.mapError_eq_ok, length_take_succ_gt, take_take_succ]
  refine and_congr_right fun _ => ?_
  cases decoded : Utf8.decode (file.take request.maxBytes) with
  | none =>
      constructor
      · intro same
        cases same
      · rintro ⟨_, same, -⟩
        cases same
  | some content =>
      constructor
      · intro same
        exact ⟨content, rfl, (Except.ok.inj same).symm⟩
      · rintro ⟨_, same, rfl⟩
        cases same
        rfl

/-- A file of characters is read as asked exactly if the limit is one of the tool and cuts no
character in two. -/
theorem readFile_bounded_iff {machine : Machine ν} {request : FileReadRequest ν}
    {root target : List ν} {text : List Char}
    (names : NamesFile machine request root target (encode text)) :
    ReadsBounded machine request (encode text) ↔ CutsWhole request.maxBytes text := by
  have readable : (∃ content, Utf8.decode ((encode text).take request.maxBytes) = some content) ↔
      (encode text).length ≤ request.maxBytes ∨
        ∃ first, first <+: text ∧ (encode first).length = request.maxBytes := by
    rcases Nat.lt_or_ge request.maxBytes (encode text).length with long | short
    · rw [Utf8.decode_take long.le, or_iff_right (not_le.mpr long)]
    · refine iff_of_true ⟨String.ofList text, Utf8.decode_eq_some.mpr ?_⟩ (.inl short)
      rw [List.take_of_length_le short, String.toList_ofList]
  constructor
  · rintro ⟨result, reads, -⟩
    obtain ⟨⟨positive, bounded⟩, content, decoded, -⟩ := (readFile_eq_ok names).mp reads
    exact ⟨positive, bounded, readable.mp ⟨content, decoded⟩⟩
  · intro cuts
    obtain ⟨content, decoded⟩ := readable.mpr cuts.whole
    have bytes := Utf8.decode_eq_some.mp decoded
    refine ⟨_, (readFile_eq_ok names).mpr ⟨⟨cuts.positive, cuts.bounded⟩, content, decoded, rfl⟩,
      ?_, ?_, ?_, ?_⟩
    · rw [← bytes]
      exact List.take_prefix _ _
    · rw [← bytes, List.length_take]
      exact Nat.min_le_left _ _
    · rw [← bytes]
    · rw [decide_eq_true_iff]
      change _ ↔ ((encode text).take request.maxBytes).length < _
      rw [List.length_take]
      omega

/-- A workspace at the root with one file. -/
def oneFile (content : List UInt8) : Machine String where
  files := (FileTree.bare String (List UInt8)).put ["a"] (some (.file content))
  currentDirectory := []
  links := 8
  lossy := id

def oneRequest (maxBytes : Nat) : FileReadRequest String where
  grant := ⟨⟨true, []⟩, true⟩
  path := ⟨false, [.down "a"]⟩
  maxBytes := maxBytes

theorem namesFile_one (content : List UInt8) (maxBytes : Nat) :
    NamesFile (oneFile content) (oneRequest maxBytes) [] ["a"] content := by
  have settable : (FileTree.bare String (List UInt8)).Settable ["a"] := ⟨rfl, rfl⟩
  have isFile : (oneFile content).files.node ["a"] = some (.file content) :=
    FileTree.node_put_self settable
  have rootCanonical : (oneFile content).files.canonicalize 8 [] [] = .ok [] :=
    FileTree.canonicalize_eq_ok.mpr ⟨.done, by rw [FileTree.node_root]; exact Option.some_ne_none _⟩
  exact
    { named := rfl
      readable := rfl
      isRoot := Except.mapError_eq_ok.mpr rootCanonical
      isTarget := Except.mapError_eq_ok.mpr (FileTree.canonicalize_of_file isFile)
      below := List.nil_prefix
      isFile }

/-- A letter of two bytes is read with a limit of two. -/
theorem readFile_bounded_letter :
    ReadsBounded (oneFile (encode ['é'])) (oneRequest 2) (encode ['é']) :=
  (readFile_bounded_iff (namesFile_one _ 2)).mpr
    ⟨by decide, Nat.le_of_ble_eq_true rfl, .inl (by decide)⟩

/-- With a limit of one it is refused as not being text. -/
theorem not_readsBounded_cut : ¬ ∀ (machine : Machine String) (request : FileReadRequest String)
    (root target : List String) (text : List Char),
    NamesFile machine request root target (encode text) → 0 < request.maxBytes →
      request.maxBytes ≤ maxReadBytes → ReadsBounded machine request (encode text) := by
  intro bounded
  obtain ⟨result, reads, -⟩ := bounded _ _ _ _ ['é'] (namesFile_one _ 1) (by decide)
    (Nat.le_of_ble_eq_true rfl)
  obtain ⟨-, content, decoded, -⟩ := (readFile_eq_ok (namesFile_one _ 1)).mp reads
  obtain ⟨first, begins, size⟩ := (Utf8.decode_take (by decide)).mp ⟨content, decoded⟩
  change (encode first).length = 1 at size
  rcases List.prefix_cons_iff.mp begins with rfl | ⟨rest, rfl, ends⟩
  · cases size
  · rw [List.prefix_nil.mp ends] at size
    exact absurd size (by decide)

end ToolFiles
end YunXi
