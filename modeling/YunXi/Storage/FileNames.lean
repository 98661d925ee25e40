import YunXi.Protocol.Authority

/-!
# Names of files

The extension of a name is what follows its last dot, unless that dot comes first.
-/

namespace YunXi
namespace Storage

open Protocol (rsplitOnce rsplitOnce_append)

/-- `Path::extension` of a file name. -/
def extension (name : String) : Option String :=
  match rsplitOnce '.' name.toList with
  | none | some ([], _) => none
  | some (_, after) => some (String.ofList after)

/-- `Path::file_stem` of a file name. -/
def fileStem (name : String) : String :=
  match rsplitOnce '.' name.toList with
  | none | some ([], _) => name
  | some (before, _) => String.ofList before

/-- `Path::with_extension` of a file name. -/
def withExtension (name replacement : String) : String :=
  if replacement = "" then fileStem name else fileStem name ++ "." ++ replacement

theorem rsplitOnce_dot (stem ending : String) (dotless : '.' ∉ ending.toList) :
    rsplitOnce '.' (stem ++ "." ++ ending).toList = some (stem.toList, ending.toList) := by
  have split : (stem ++ "." ++ ending).toList = stem.toList ++ '.' :: ending.toList := by
    rw [String.toList_append, String.toList_append, List.append_assoc]
    rfl
  rw [split, rsplitOnce_append dotless]

theorem extension_dot {stem : String} (ending : String) (named : stem ≠ "")
    (dotless : '.' ∉ ending.toList) : extension (stem ++ "." ++ ending) = some ending := by
  unfold extension
  rw [rsplitOnce_dot stem ending dotless]
  cases characters : stem.toList with
  | nil => exact absurd (String.toList_eq_nil_iff.mp characters) named
  | cons character rest => simp

theorem fileStem_dot {stem : String} (ending : String) (named : stem ≠ "")
    (dotless : '.' ∉ ending.toList) : fileStem (stem ++ "." ++ ending) = stem := by
  unfold fileStem
  rw [rsplitOnce_dot stem ending dotless]
  cases characters : stem.toList with
  | nil => exact absurd (String.toList_eq_nil_iff.mp characters) named
  | cons character rest =>
      dsimp only
      rw [← characters, String.ofList_toList]

end Storage
end YunXi
