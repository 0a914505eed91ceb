import RadioBoard.Program
import RadioBoard.Rfic
import RadioBoard.Text.Quoted

/-!
Configuration of a board, from defaults and from the environment, and the search for an FPGA image.
-/

namespace RadioBoard

/-- The variables that are set, with their values. -/
abbrev Environment := String → Option String

/-- The regular files at their paths, each with its contents or the reason why it cannot be read. -/
abbrev Files := String → Option (Except String ByteArray)

namespace Variable

def home : String := "HOME"
def searchDir : String := "BLADERF_SEARCH_DIR"
def forceNoFpga : String := "BLADERF_FORCE_NO_FPGA_PRESENT"
def skipFpgaSizeCheck : String := "BLADERF_SKIP_FPGA_SIZE_CHECK"
def skipFirmwareSizeCheck : String := "BLADERF_SKIP_FW_SIZE_CHECK"

end Variable

/-- The file name of an image for the A4 variant. -/
def a4ImageName : String := "hostedxA4.rbf"

/-- The path of `name` seen from `dir`; an absolute name stands for itself. -/
def joinPath (dir name : String) : String :=
  if name.startsWith "/" then name
  else if dir.isEmpty || dir.endsWith "/" then dir ++ name
  else dir ++ "/" ++ name

structure Config where
  /-- How often the firmware is asked whether it is ready. -/
  readyPolls : Nat := 30
  readyPauseMs : Nat := 50
  searchPaths : List String
  /-- Leave the FPGA alone. -/
  forceNoFpga : Bool := false
  skipFpgaSizeCheck : Bool := false
  skipFirmwareSizeCheck : Bool := false
  rfic : Rfic.Params := {}
  /-- The shunt resistor of the power monitor, in ohms. -/
  shunt : Float32 := 0.001

namespace Config

def defaultSearchPaths (env : Environment) : List String :=
  "." :: (env Variable.home).toList.map (joinPath · ".config/Nuand/bladeRF") ++
    ["/etc/Nuand/bladeRF", "/usr/share/Nuand/bladeRF"]

/-- The configuration without the switches that the environment can set. -/
def default (env : Environment) : Config := { searchPaths := defaultSearchPaths env }

/-- Whether a variable is set, to whatever value. -/
def isSet (env : Environment) (name : String) : Program Interface.silent Bool := do
  let found := (env name).isSome
  if found then logInfo s!"{name} is set"
  return found

def fromEnvironment (env : Environment) : Program Interface.silent Config := do
  let config := default env
  let searchPaths ← match env Variable.searchDir with
    | some dir => do
      logInfo s!"{Variable.searchDir} is set, searching {Text.quote dir} first"
      pure (dir :: config.searchPaths)
    | none => pure config.searchPaths
  let forceNoFpga ← isSet env Variable.forceNoFpga
  let skipFpgaSizeCheck ← isSet env Variable.skipFpgaSizeCheck
  let skipFirmwareSizeCheck ← isSet env Variable.skipFirmwareSizeCheck
  return { config with searchPaths, forceNoFpga, skipFpgaSizeCheck, skipFirmwareSizeCheck }

/-- The first file of this name under the search paths, with its contents. -/
def lookUp (config : Config) (files : Files) (name : String) : Option (String × Except String ByteArray) :=
  config.searchPaths.findSome? fun dir =>
    (files (joinPath dir name)).map fun contents => (joinPath dir name, contents)

def findFile (config : Config) (files : Files) (name : String) : Option String :=
  (config.lookUp files name).map (·.1)

end Config
end RadioBoard
