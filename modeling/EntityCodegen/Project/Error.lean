import EntityCodegen.Definition.Line
import EntityCodegen.Files.Access
import EntityCodegen.Project.Settings
import EntityCodegen.Text.Quoted

/-!
# Failures of a run

Why a command on a project did not succeed.
-/

namespace EntityCodegen

/-- Why a definition directory could not be read. -/
inductive ScanError where
  | directoryNotFound (path : Path)
  | noFiles (path : Path)
  | unreadable (path : Path) (fault : Fault)
  deriving DecidableEq, Repr

inductive SettingsError where
  /-- The settings file that the command names does not exist. -/
  | notFound (path : Path)
  | unreadable (path : Path) (fault : Fault)
  /-- The settings file is not in TOML, or a setting has the wrong form. -/
  | malformed (path : Path)
  /-- A setting has a value that it cannot have. -/
  | bad (fault : SettingFault)
  deriving DecidableEq, Repr

/-- Why a generated file was not written. -/
inductive WriteError where
  | directory (path : Path) (fault : Fault)
  | file (path : Path) (fault : Fault)
  deriving DecidableEq, Repr

inductive CheckError where
  | outOfDate (files : Nat)
  /-- The settings file to be made is there already. -/
  | settingsExist
  deriving DecidableEq, Repr

/-- Why a command on a project did not succeed. -/
inductive ProjectError where
  | scan (error : ScanError)
  | definition (error : DefinitionError)
  | settings (error : SettingsError)
  | write (error : WriteError)
  | check (error : CheckError)
  | access (fault : Fault)
  deriving DecidableEq, Repr

def ScanError.message : ScanError → String
  | directoryNotFound path => "Directory not found: " ++ path.text
  | noFiles path => "No definition files found in: " ++ path.text
  | unreadable path fault => "IO error scanning " ++ path.text ++ ": " ++ fault.message

def SettingFault.message : SettingFault → String
  | badDelimiter text =>
    "Invalid configuration value for 'components.delimiter': expected a single character, got " ++
      Text.quoted text
  | emptyWireType =>
    "Invalid configuration value for 'components.wire_filter_type': must not be empty"

def SettingsError.message : SettingsError → String
  | notFound path => "Configuration file not found: " ++ path.text
  | unreadable path fault => "Failed to read config " ++ path.text ++ ": " ++ fault.message
  | malformed path => "Invalid TOML in " ++ path.text
  | bad fault => fault.message

def WriteError.message : WriteError → String
  | directory path fault => "Failed to create directory " ++ path.text ++ ": " ++ fault.message
  | file path fault => "Failed to write file " ++ path.text ++ ": " ++ fault.message

def CheckError.message : CheckError → String
  | outOfDate files => toString files ++ " generated file(s) out of date"
  | settingsExist => "Configuration file already exists"

def ProjectError.message : ProjectError → String
  | scan error => "Failed to scan directory: " ++ error.message
  | definition error => "Invalid definition: " ++ error.message
  | settings error => "Failed to load configuration: " ++ error.message
  | write error => "Failed to write output: " ++ error.message
  | check error => "Validation failed: " ++ error.message
  | access fault => "IO error: " ++ fault.message

end EntityCodegen
