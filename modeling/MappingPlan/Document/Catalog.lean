import MappingPlan.Document.Section

/-!
# Catalogs

A catalog is a directory of mapping files.  Loading it gives one document in which
the root of each file stands under the path of the file, without its extension.
The files are visited depth first, the entries of each directory in the order of
their names, and the first file that cannot be read or mounted ends the loading.
-/

namespace MappingPlan

inductive FileTree where
  | file (content : ByteArray)
  | directory (entries : List (String × FileTree))

/-- A mapping file as found in a directory: where it is, the keys under which it is
mounted, and what it holds. -/
structure MappingFile where
  path : String
  keys : List String
  content : ByteArray

namespace FileTree

def mappingExtension : List Char := "json".toList

/-- The name before the last point and the extension after it, when there is
something before it. -/
def splitExtension? (name : String) : Option (String × List Char) :=
  let reversed := name.toList.reverse
  let extension := reversed.takeWhile (· != '.')
  match reversed.drop extension.length with
  | '.' :: stem =>
      if stem.isEmpty then none
      else some (String.ofList stem.reverse, extension.reverse)
  | _ => none

def mappingStem? (name : String) : Option String := do
  let (stem, extension) ← splitExtension? name
  if extension = mappingExtension then some stem else none

/-- The last key of a file.  A stem of one point keeps the point of the extension. -/
def keyOf (stem : String) : String :=
  if stem = "." then ".." else stem

def entryPath (path name : String) : String :=
  if path.toList.getLast? = some '/' then path ++ name else path ++ "/" ++ name

mutual

def mappingFiles (path : String) (parents : List String) : FileTree → List MappingFile
  | .file _ => []
  | .directory entries =>
      ((entryFiles path parents entries).mergeSort fun a b => decide (a.1 ≤ b.1)).flatMap Prod.snd

def entryFiles (path : String) (parents : List String) :
    List (String × FileTree) → List (String × List MappingFile)
  | [] => []
  | (name, .file content) :: rest =>
      let files :=
        match mappingStem? name with
        | some stem => [⟨entryPath path name, parents ++ [keyOf stem], content⟩]
        | none => []
      (name, files) :: entryFiles path parents rest
  | (name, .directory entries) :: rest =>
      (name, mappingFiles (entryPath path name) (parents ++ [name]) (.directory entries)) ::
        entryFiles path parents rest

end

/-- The tree at the end of a chain of steps, each the name of an entry, nothing or a
point for the directory itself, or two points for the one around it.  No step leads
on from a file, or out of the outermost directory. -/
def follow (around : List FileTree) : List String → FileTree → Except AccessFault FileTree
  | [], tree => .ok tree
  | _ :: _, .file _ => .error .notADirectory
  | step :: rest, .directory entries =>
      if step = "" ∨ step = "." then follow around rest (.directory entries)
      else if step = ".." then
        match around with
        | [] => .error .notFound
        | outer :: others => follow others rest outer
      else
        match entries.lookup step with
        | some tree => follow (.directory entries :: around) rest tree
        | none => .error .notFound

def locate (path : String) (tree : FileTree) : Except AccessFault FileTree :=
  follow [] (Text.split '/' path) tree

end FileTree

namespace Document

def mount (file : String) (value : Json) :
    List String → List (String × Json) → Result (List (String × Json))
  | [], members => .ok members
  | [key], members =>
      if (members.lookup key).isSome then .error (.file file (.fileAndDirectory key))
      else .ok (members ++ [(key, value)])
  | key :: rest, members =>
      match members.lookup key with
      | none => do return members ++ [(key, .object (← mount file value rest []))]
      | some (.object inner) => do
          return Pairs.put key (.object (← mount file value rest inner)) members
      | some _ => .error (.file file (.fileAndDirectory key))

def ofContent (path : String) (content : ByteArray) : Result Document :=
  match String.fromUTF8? content with
  | some text => parse path text
  | none => .error (.file path .notUtf8)

def mountFile (members : List (String × Json)) (file : MappingFile) :
    Result (List (String × Json)) := do
  if file.keys.any ConfigPath.hasSeparator then .error (.file file.path .separatorInName)
  else
    let document ← ofContent file.path file.content
    mount file.path document.root file.keys members

def ofFile (path : String) (found : Except AccessFault FileTree) : Result Document :=
  match found with
  | .ok (.file content) => ofContent path content
  | .ok (.directory _) => .error (.file path (.access .isADirectory))
  | .error fault => .error (.file path (.access fault))

/-- The document of a catalog directory.  A mapping file in place of the directory
has to be readable, but has no key to be mounted under. -/
def ofDirectory (path : String) (found : Except AccessFault FileTree) : Result Document :=
  match found with
  | .ok (.directory entries) => do
      let files := FileTree.mappingFiles path [] (.directory entries)
      return ⟨.object (← files.foldlM mountFile [])⟩
  | .ok (.file content) => do
      let name := (Text.split '/' path).getLast?.getD path
      if (FileTree.mappingStem? name).isSome then
        let _ ← ofContent path content
      return ⟨.object []⟩
  | .error fault => .error (.file path (.walk path fault))

end Document

end MappingPlan
