import DspInspector.Control.CorePower
import DspInspector.Storage.FileTree

/-!
# Control entries as files

A control device over files. A request goes to the start of the file, over what is there; the reply
is what the file holds afterwards.
-/

namespace DspInspector.ControlFiles

/-- A failure at a file. -/
def refused (failure : (path reason : String) → TransportError) (path : String) (cause : FileError) :
    Fault :=
  .transport (failure path cause.message)

/-- The bytes of a file after a request was written over its start. -/
def overwrite (request bytes : List UInt8) : List UInt8 := request ++ bytes.drop request.length

/-- Opens a file for reading and writing. -/
def openFile (path : String) : Action Fault FileTree (List UInt8) := fun tree =>
  match tree.readBytes path with
  | .ok bytes => .ok bytes tree
  | .error cause => .error (refused .openFile path cause) tree

/-- Writes a request and gives the content of the file afterwards. -/
def send (path : String) (request : List UInt8) : Action Fault FileTree (List UInt8) := do
  let bytes ← openFile path
  let after := overwrite request bytes
  let tree ← get
  match tree.writeBytes path after with
  | .ok tree =>
    set tree
    pure after
  | .error cause => throw (refused .sendRequest path cause)

/-- The device over files. -/
def device : ControlDevice FileTree where
  read path request capacity := do
    let after ← send path request
    pure (after.take capacity)
  write path request := do
    let _ ← send path request

end DspInspector.ControlFiles
