import Toolpath.Settings.Config
import Toolpath.Files.Disk

/-!
The formats of configuration files, and what can go wrong with such a file.
-/

namespace Toolpath.Settings

open Files

inductive Format
  | json
  | toml
  deriving DecidableEq, Repr

inductive ConfigError
  | unsupportedFormat (name : Text)
  | unsupportedPlatform (name : Text)
  deriving DecidableEq, Repr

def ConfigError.message : ConfigError → Text
  | unsupportedFormat name => "Unsupported config format: ".toList ++ name
  | unsupportedPlatform name => "Unsupported platform: ".toList ++ name

def Format.ofPath (p : Path) : Except ConfigError Format :=
  match Path.extension? p with
  | none => .error (.unsupportedFormat p)
  | some ending =>
    let word := ending.map Text.lowerAscii
    if word = "json".toList then .ok .json
    else if word = "toml".toList then .ok .toml
    else .error (.unsupportedFormat ending)

inductive SettingsError
  | load (detail : Text)
  | save (detail : Text)
  | invalid (e : InvalidSetting)
  | folder (detail : Text)
  | disk (e : DiskError)
  | unreadableJson
  | unreadableToml
  | unwritableToml
  | config (e : ConfigError)
  deriving DecidableEq, Repr

def SettingsError.message : SettingsError → Text
  | load detail => "Failed to load settings: ".toList ++ detail
  | save detail => "Failed to save settings: ".toList ++ detail
  | invalid e => e.message
  | folder detail => "Config directory error: ".toList ++ detail
  | disk e => "I/O error: ".toList ++ e.message
  | unreadableJson => "JSON error: not a configuration".toList
  | unreadableToml => "TOML error: not a configuration".toList
  | unwritableToml => "TOML error: value out of range".toList
  | config e => "Config error: ".toList ++ e.message

end Toolpath.Settings
