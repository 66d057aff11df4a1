import Specimen.Files.Fault
import Specimen.Json.Scan

/-! What a program needs from the machine it runs on. -/
namespace Specimen.Files
open Json (Bytes)

class Host (m : Type → Type) where
  /-- The contents of a file. -/
  readFile : String → m (Except Fault Bytes)
  /-- Replaces the contents of a file, or makes one. -/
  writeFile : String → Bytes → m (Except Fault Unit)
  /-- Makes a directory and those around it, as far as they are missing. -/
  makeDirectory : String → m (Except Fault Unit)
  /-- Whether there is something at a path, and whether it is a directory. -/
  isDirectory? : String → m (Option Bool)
  /-- The names in a directory. -/
  list : String → m (Except Fault (List String))
  /-- What is left of the standard input. -/
  readInput : m Bytes
  print : String → m Unit

end Specimen.Files
