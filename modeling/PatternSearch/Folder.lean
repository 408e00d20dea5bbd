import PatternSearch.Text.Split
import PatternSearch.Text.Width
/-! # Folders

A folder holds files and folders under names. A path is followed name by name from the folder. -/
namespace PatternSearch
open Text

inductive Entry where
  | file (bytes : ByteArray)
  | folder

/-- Why a file cannot be read. -/
inductive FileFault where
  | missing
  | notAFolder
  | isAFolder
  | notText
  | nulInName
  | nameTooLong
  | other (message : String)
  deriving DecidableEq

def FileFault.message : FileFault → String
  | missing => "No such file or directory (os error 2)"
  | notAFolder => "Not a directory (os error 20)"
  | isAFolder => "Is a directory (os error 21)"
  | notText => "stream did not contain valid UTF-8"
  | nulInName => "file name contained an unexpected NUL byte"
  | nameTooLong => "File name too long (os error 36)"
  | other message => message

/-- Entries with the names on the way to them. -/
abbrev Folder := List (List (List Char) × Entry)

namespace Folder

def ofPaths (entries : List (String × Entry)) : Folder :=
  entries.map fun (path, entry) => (splitOn '/' path.toList, entry)

/-- What stands at the end of a way. A way to an entry leads through folders. -/
def at? (folder : Folder) (way : List (List Char)) : Option Entry :=
  if way.isEmpty then some .folder
  else match folder.lookup way with
    | some entry => some entry
    | none => if folder.any fun entry => way.isPrefixOf entry.1 then some .folder else none

/-- The longest name of an entry, in bytes. -/
def maxName : Nat := 255

/-- The longest path, in bytes. -/
def maxPath : Nat := 4095

/-- Names that lead to where one is. -/
def stays (name : List Char) : Bool := name.isEmpty || name == ['.']

/-- Goes on outside of the folder, where nothing is known but the folders around it. -/
def followOutside : List (List Char) → Except FileFault Entry
  | [] => .ok .folder
  | name :: names =>
    if stays name || name == ['.', '.'] then followOutside names
    else if maxName < byteWidth name then .error .nameTooLong
    else .error .missing

/-- Goes on from a way, held backwards, by the names of a path. -/
def follow (folder : Folder) (way : List (List Char)) : List (List Char) → Except FileFault Entry
  | [] =>
    match folder.at? way.reverse with
    | some entry => .ok entry
    | none => .error .missing
  | name :: names =>
    match folder.at? way.reverse with
    | none => .error .missing
    | some (.file _) => .error .notAFolder
    | some .folder =>
      if stays name then follow folder way names
      else if name == ['.', '.'] then
        match way with
        | [] => followOutside names
        | _ :: way => follow folder way names
      else if maxName < byteWidth name then .error .nameTooLong
      else follow folder (name :: way) names

/-- What a path leads to. A path that starts with a slash starts outside. -/
def resolve (folder : Folder) (path : List Char) : Except FileFault Entry :=
  match path with
  | [] => .error .missing
  | '/' :: rest => followOutside (splitOn '/' rest)
  | path => folder.follow [] (splitOn '/' path)

/-- The text of a file. -/
def read (folder : Folder) (path : String) : Except FileFault String := do
  let path := path.toList
  if path.contains '\x00' then throw .nulInName
  if maxPath < byteWidth path then throw .nameTooLong
  match ← folder.resolve path with
  | .folder => throw .isAFolder
  | .file bytes =>
    match String.fromUTF8? bytes with
    | some text => return text
    | none => throw .notText

example : let folder := ofPaths [("a/b", .file .empty)]
    (folder.read "./a//b" matches .ok _) ∧ (folder.read "a" matches .error .isAFolder) ∧
    (folder.read "a/b/" matches .error .notAFolder) ∧
    (folder.read "../a/b" matches .error .missing) := by decide

end Folder

end PatternSearch
