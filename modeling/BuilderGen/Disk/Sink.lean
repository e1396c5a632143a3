import BuilderGen.Disk
import BuilderGen.Pass.Store

/-!
# Builders in files

The sink that keeps every builder in a file of its own, all in one folder. A file that already holds
the text is not written again.
-/

namespace BuilderGen.Disk

/-- The path of the file for a slot in a folder. -/
def slotPath (folder : FilePath) (slot : Slot) : FilePath := folder.join ⟨slot.fileName⟩

/-- Write a text to a file, unless the file holds exactly that text. -/
def update (d : Disk) (p : FilePath) (text : String) : Except DiskError Disk :=
  match d.read p with
  | .ok old => if old = text then .ok d else d.write p text.toUTF8
  | .error _ => d.write p text.toUTF8

/-- Write a text to the file for a slot. The folder is made when it is not there. -/
def writeSlot (folder : FilePath) (slot : Slot) (text : String) (d : Disk) :
    Except DiskError Unit × Disk :=
  match d.makeFolders folder with
  | (.error e, d) => (.error e, d)
  | (.ok (), d) =>
    match d.update (slotPath folder slot) text with
    | .ok d => (.ok (), d)
    | .error e => (.error e, d)

/-- The sink that writes to files in a folder. -/
def sink (folder : FilePath) : Sink Disk where
  write slot text d :=
    let (outcome, d) := writeSlot folder slot text d
    (outcome.mapError DiskError.message, d)

end BuilderGen.Disk
