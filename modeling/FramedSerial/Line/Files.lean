import FramedSerial.Error
import FramedSerial.Line.Speed

/-!
# The files around a program

A program meets files by their paths. For its purposes a file is a directory, a terminal, the
null device or an ordinary file with its bytes, and the files of a system are a function from
paths.

A table of entries is such a function. In it a path is walked one name at a time, from the root
or from where the program is, and the walk says why a path leads nowhere: a name is too long,
there is nothing of that name, or the way goes on through something that is no directory. A path
that ends in a slash wants a directory. The root is its own parent, so enough steps up reach it
from anywhere.
-/

namespace FramedSerial

/-- What a path can lead to. -/
inductive FileNode where
  | ordinary (contents : Bytes)
  | directory
  | nullDevice
  | terminal

/-- What each path leads to, or why it leads nowhere. -/
abbrev Files := String → Except IoError FileNode

/-- The names on the way from the root to a file, none of them a step up or on the spot. -/
abbrev Place := List String

/-- Files by their places, and the place that relative paths start at. The directories on the
way to each of these are there as well. -/
structure FileTable where
  entries : List (Place × FileNode)
  here : Place

namespace FileTable

/-- The longest name, in bytes. -/
def maxName : Nat := 255

/-- The longest path, in bytes. -/
def maxPath : Nat := 4095

/-- The names along a path; a slash at its end stands for a step on the spot. -/
def steps (path : String) : List String :=
  ((if path.endsWith "/" then path ++ "." else path).splitOn "/").filter (· ≠ "")

/-- The place at the end of a path from the root that has no step up. -/
def placeOf (path : String) : Place := (steps path).filter (· ≠ ".")

/-- The table of the files at these paths, for a program that runs in the directory `here`. -/
def ofPaths (here : String) (entries : List (String × FileNode)) : FileTable :=
  ⟨entries.map fun (path, node) => (placeOf path, node), placeOf here⟩

/-- The file at a place. -/
def nodeAt (fs : FileTable) (p : Place) : Option FileNode :=
  match fs.entries.lookup p with
  | some node => some node
  | none =>
    if (fs.here :: fs.entries.map (·.1)).any p.isPrefixOf then some .directory else none

/-- Walk on from a place that leads to a file. -/
def walk (fs : FileTable) (p : Place) (node : FileNode) : List String → Except IoError FileNode
  | [] => .ok node
  | name :: names =>
    match node with
    | .directory =>
      if name = "." then walk fs p node names
      else if name = ".." then walk fs p.dropLast .directory names
      else if maxName < name.utf8ByteSize then .error (.system Errno.nameTooLong)
      else
        match fs.nodeAt (p ++ [name]) with
        | none => .error (.system Errno.notFound)
        | some next => walk fs (p ++ [name]) next names
    | _ => .error (.system Errno.notADirectory)

/-- The file at a path. -/
def find (fs : FileTable) : Files := fun path =>
  if path.toList.contains '\x00' then
    .error (.custom .invalidInput "file name contained an unexpected NUL byte")
  else if path.isEmpty then .error (.system Errno.notFound)
  else if maxPath < path.utf8ByteSize then .error (.system Errno.nameTooLong)
  else fs.walk (if path.startsWith "/" then [] else fs.here) .directory (steps path)

end FileTable

/-- The bytes of a file that has been opened for reading; a directory opens but does not
read. -/
def FileNode.contents : FileNode → Except IoError Bytes
  | .ordinary bytes => .ok bytes
  | .nullDevice => .ok []
  | .terminal => .ok []
  | .directory => .error (.system Errno.isADirectory)

namespace Files

/-- Open a serial device and set its speed. An unknown speed is refused before anything is
opened, and only a terminal takes the setting. -/
def openDevice (fs : Files) (path : String) (baud : UInt32) : Except DeviceError Speed :=
  match Speed.ofBaud? baud with
  | none => .error (.unsupportedBaudRate baud)
  | some speed =>
    match fs path with
    | .error e => .error (.openFailed path e)
    | .ok .directory => .error (.openFailed path (.system Errno.isADirectory))
    | .ok .terminal => .ok speed
    | .ok _ => .error (.configureFailed path (.system Errno.notATerminal))

end Files

end FramedSerial
