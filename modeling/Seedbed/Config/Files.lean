/-!
# Files

The files that a run can see, as a value: what each path leads to. A path is followed step by step,
so every directory on it must be there, also one that is left again.
-/

namespace Seedbed

inductive FileEntry where
  | directory
  | file (bytes : ByteArray)

/-- The files below the current directory, by the steps of their paths; of two entries with one path
the first counts. -/
structure Files where
  entries : List (List String × FileEntry) := []

namespace Files

def steps (path : String) : List String :=
  (path.splitOn "/").filter fun step => step != "" && step != "."

/-- Adds an entry; the directories on its path are there with it. -/
def add (files : Files) (path : String) (entry : FileEntry) : Files :=
  ⟨(steps path, entry) :: files.entries⟩

/-- What lies at some steps, none of which leads back. -/
def entryAt? (files : Files) (path : List String) : Option FileEntry :=
  match files.entries.lookup path with
  | some entry => some entry
  | none =>
    if path.isEmpty || files.entries.any fun (longer, _) => path.isPrefixOf longer then
      some .directory
    else none

/-- Follows steps from a place, which is held backwards. -/
def follow (files : Files) : (place steps : List String) → Option FileEntry
  | place, [] => files.entryAt? place.reverse
  | place, step :: rest =>
    match files.entryAt? place.reverse with
    | some .directory =>
      if step = ".." then
        match place with
        | [] => none
        | _ :: outer => follow files outer rest
      else follow files (step :: place) rest
    | _ => none

def find? (files : Files) (path : String) : Option FileEntry :=
  if path.startsWith "/" then none else files.follow [] (steps path)

end Files
end Seedbed
