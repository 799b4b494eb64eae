import ApiGateway.Api
import ApiGateway.Config.Ini
import ApiGateway.Log.Level

/-!
# Settings

The settings of a gateway: defaults, overridden by an INI text.  The section `logging` has `level`
and `pattern`, the section `reactor` has `response_time_header`, and each section `api:ID` defines
an API.  A key that is there must have a valid value; one that is missing leaves the default.
Whatever the order of the sections, logging is read first, then the reactor, then the APIs.
-/

namespace ApiGateway

structure Settings where
  logging : LogSettings := {}
  timeHeader : Bool := true
  apis : List Api := []
deriving DecidableEq, Repr, Inhabited

inductive SettingsFault
  /-- A section is not closed, or comes twice. -/
  | malformed
  | unknownLevel (word : String)
  | notBoolean
  | apiWithoutId
  | apiWithoutPath (id : String)
deriving DecidableEq, Repr, Inhabited

inductive SettingsError
  | unreadable (path : String)
  | invalid (origin : String) (fault : SettingsFault)
deriving DecidableEq, Repr, Inhabited

namespace SettingsFault

/-- What an error message says of a fault.  For a text that does not follow the grammar and for a
word that is no truth value it gives no reason but a star. -/
def message : SettingsFault → String
  | malformed => "*"
  | unknownLevel w => "unknown log level '" ++ w ++ "'"
  | notBoolean => "*"
  | apiWithoutId => "API section without id"
  | apiWithoutPath id => "API " ++ id ++ " has no context_path"

end SettingsFault

namespace SettingsError

def message : SettingsError → String
  | unreadable path => "cannot open " ++ path
  | invalid origin f => origin ++ ": " ++ f.message

def kind : SettingsError → String
  | unreadable _ => "Unreadable"
  | invalid _ .malformed => "Malformed"
  | invalid .. => "InvalidValue"

end SettingsError

namespace Settings

def readBool (s : Ini.Section) (key : String) (default : Bool) (reader : Ini.Reader := .plain) :
    Except SettingsFault Bool :=
  match s.get? key with
  | none => .ok default
  | some w =>
    match reader.truth w with
    | some b => .ok b
    | none => .error .notBoolean

def readLogging (s : Option Ini.Section) : Except SettingsFault LogSettings :=
  match s with
  | none => .ok {}
  | some s =>
    let level := (s.get? "level").getD "info"
    if (Level.parse? level).isNone then .error (.unknownLevel level)
    else .ok { level := level, pattern := (s.get? "pattern").getD LogSettings.defaultPattern }

def readTimeHeader (s : Option Ini.Section) (reader : Ini.Reader := .plain) :
    Except SettingsFault Bool :=
  match s with
  | none => .ok true
  | some s => readBool s "response_time_header" true reader

def apiId? (name : String) : Option String :=
  if "api:".toList.isPrefixOf name.toList then some (String.ofList (name.toList.drop 4)) else none

def readApi (id : String) (s : Ini.Section) (reader : Ini.Reader := .plain) :
    Except SettingsFault Api := do
  if id.isEmpty then throw .apiWithoutId
  let enabled ← readBool s "enabled" true reader
  let path := (s.get? "context_path").getD ""
  if path.isEmpty then throw (.apiWithoutPath id)
  return {
    id := id
    name := (s.get? "name").getD id
    version := (s.get? "version").getD ""
    enabled := enabled
    contextPath := path
    virtualHost := (s.get? "virtual_host").filter (!·.isEmpty) }

def readApis (sections : List Ini.Section) (reader : Ini.Reader := .plain) :
    Except SettingsFault (List Api) :=
  match sections with
  | [] => .ok []
  | s :: rest =>
    match apiId? s.name with
    | none => readApis rest reader
    | some id => do
      let api ← readApi id s reader
      let more ← readApis rest reader
      return api :: more

def ofSections (sections : List Ini.Section) (reader : Ini.Reader := .plain) :
    Except SettingsFault Settings := do
  let logging ← readLogging (sections.find? (·.name == "logging"))
  let timeHeader ← readTimeHeader (sections.find? (·.name == "reactor")) reader
  let apis ← readApis sections reader
  return { logging := logging, timeHeader := timeHeader, apis := apis }

def read (text : String) (reader : Ini.Reader := .plain) : Except SettingsFault Settings :=
  match reader.sections text with
  | none => .error .malformed
  | some sections => ofSections sections reader

def load (origin text : String) (reader : Ini.Reader := .plain) : Except SettingsError Settings :=
  match read text reader with
  | .ok s => .ok s
  | .error f => .error (.invalid origin f)

def ofText (text : String) (reader : Ini.Reader := .plain) : Except SettingsError Settings :=
  load "<string>" text reader

/-- The settings in a file; `content` gives the text of a file that can be read. -/
def ofFile (content : String → Option String) (path : String) (reader : Ini.Reader := .plain) :
    Except SettingsError Settings :=
  match content path with
  | none => .error (.unreadable path)
  | some text => load path text reader

end Settings
end ApiGateway
