import Typings.Files.Store
import Typings.Number.Reader
import Typings.Settings.EnvFile
import Typings.Text.Case
import Typings.Validation

/-!
# Settings of a run

Settings come from environment variables with the prefix `UI5TS_`, whatever their case, and from a
file `.env` for what the environment leaves out.

* `Settings.check`: given values as settings, or every issue with them;
* `Settings.read`: the settings that an environment and a file store give.
-/

namespace Typings

structure Settings where
  configPath : FilePath := ⟨.relative, ["ui5ts.config.json"]⟩
  fetchTimeout : Binary64 := .ofInt 30
  fetchRetries : Nat := 3
  fetchRetryDelay : Binary64 := .ofInt 1
  logLevel : String := "WARNING"
deriving DecidableEq

/-! ## Single settings -/

namespace Json

/-- A whole number, also one without fraction among the floating-point ones of 64 bits. -/
def asInteger : Json → Checked Int
  | .str text =>
      match NumberText.integerOfText text with
      | .ok value => .accepted value
      | .error .malformed => .reject .unparsedInteger
      | .error .tooManyDigits => .reject .oversizedInteger
  | .int value => .accepted value
  | .float value =>
      match value.wholeValue? with
      | some whole =>
          if -signedLimit < whole ∧ whole < signedLimit then .accepted whole
          else .reject .oversizedInteger
      | none => .reject (if value.isFinite then .fractionalInteger else .infiniteInteger)
  | .bool flag => .accepted (if flag then 1 else 0)
  | _ => .reject .notInteger

def asNumber : Json → Checked Binary64
  | .str text =>
      match NumberText.numberOfText? text with
      | some value => .accepted value
      | none => .reject .unparsedNumber
  | .int value =>
      if (Binary64.ofInt value).isFinite then .accepted (.ofInt value) else .reject .notNumber
  | .float value => .accepted value
  | .bool flag => .accepted (.ofInt (if flag then 1 else 0))
  | _ => .reject .notNumber

end Json

namespace Checked

variable {α β : Type}

/-- Check an accepted value further. -/
def andThen (checked : Checked α) (next : α → Checked β) : Checked β :=
  match checked with
  | .accepted value => next value
  | .rejected issues => .rejected issues

end Checked

namespace Settings

/-- A timeout lies between one second and five minutes. -/
def checkTimeout (value : Json) : Checked Binary64 :=
  value.asNumber.andThen fun number =>
    if !number.atMost 300 then .reject (.aboveGreatest 300)
    else if !number.atLeast 1 then .reject (.belowLeast 1)
    else .accepted number

/-- A request is attempted between one and ten times. -/
def checkRetries (value : Json) : Checked Nat :=
  value.asInteger.andThen fun number =>
    if 10 < number then .reject (.aboveGreatest 10)
    else if number < 1 then .reject (.belowLeast 1)
    else .accepted number.toNat

/-- A delay is not negative. -/
def checkDelay (value : Json) : Checked Binary64 :=
  value.asNumber.andThen fun number =>
    if number.atLeast 0 then .accepted number else .reject (.belowLeast 0)

def checkPath (value : Json) : Checked FilePath :=
  FilePath.ofString <$> value.asText

/-! ## All settings -/

/-- Given values as settings; a setting that is not given has its default. -/
def check (fields : Fields) : Checked Settings :=
  let absent : Settings := {}
  Settings.mk <$> fields.optional (plainName "config_path") absent.configPath checkPath
    <*> fields.optional (plainName "fetch_timeout") absent.fetchTimeout checkTimeout
    <*> fields.optional (plainName "fetch_retries") absent.fetchRetries checkRetries
    <*> fields.optional (plainName "fetch_retry_delay") absent.fetchRetryDelay checkDelay
    <*> fields.optional (plainName "log_level") absent.logLevel Json.asText

/-- The names of the settings. -/
def names : List String :=
  ["config_path", "fetch_timeout", "fetch_retries", "fetch_retry_delay", "log_level"]

/-- The entry of a setting among variables; the last one of its name counts, in any case. -/
def entryAmong? {α : Type} (given : List (String × α)) (name : String) : Option α :=
  (given.reverse.find? fun entry =>
    String.ofList (entry.1.toList.map Char.toLower) = "ui5ts_" ++ name).map (·.2)

/-- The variables that a file `.env` sets. -/
def fileVariables (environment : List (String × String)) (store : FileStore) :
    Except Utf8.Fault (Table (Option String)) :=
  match store.readText ⟨.relative, [".env"]⟩ with
  | .ok text => .ok (EnvFile.parse environment text)
  | .error (.undecodable fault) => .error fault
  | .error _ => .ok []

/-- The settings that variables give; those of the environment come before those of a file. -/
def ofVariables (environment : List (String × String)) (file : Table (Option String)) :
    Checked Settings :=
  check (names.filterMap fun name =>
    ((entryAmong? environment name).or (entryAmong? file name).join).map fun value =>
      (name, .str value))

/-- Why a run has no settings. -/
inductive Refusal where
  | offSchema (issues : List Issue)
  | undecodable (fault : Utf8.Fault)
deriving DecidableEq, Repr

/-- The settings that an environment and a file store give. -/
def read (environment : List (String × String)) (store : FileStore) : Except Refusal Settings :=
  match fileVariables environment store with
  | .error fault => .error (.undecodable fault)
  | .ok file =>
      match ofVariables environment file with
      | .accepted settings => .ok settings
      | .rejected issues => .error (.offSchema issues)

/-! ## Log levels -/

/-- The names of log levels. -/
def levelNames : List String :=
  ["CRITICAL", "FATAL", "ERROR", "WARNING", "WARN", "INFO", "DEBUG", "NOTSET"]

/-- The log level in capital letters. -/
def level (settings : Settings) : String :=
  Text.upper settings.logLevel

end Settings
end Typings
