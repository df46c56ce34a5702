import QueryOptions.Fault.Basic
import QueryOptions.Signature
import QueryOptions.Text.Order

/-!
# QueryOptions.Settings

Settings of the sections. What settings a section has is read from the signature of its
constructor; the settings of all sections form one flat mapping. A `Keeper` gives whoever asks the
settings of a signature and remembers who has asked, so that it can tell afterwards which settings
nobody knows.

A section is switched off by `<name>_enabled` with an absent value such as false, from the moment
on at which its settings are asked for.

`Settings.defaults` lists all settings once more, for those who want to give settings by name.
-/

namespace QueryOptions

/-- The signature of the constructor of a section. -/
def SectionName.signature : SectionName → Signature
  | .fields =>
    .ofParameters [.required "self", .required "model", .optional "force_include"] (by decide)
  | .embed => .ofParameters [.required "self", .required "model"] (by decide)
  | .sort => .ofParameters [.required "self", .required "model"] (by decide)
  | .filters =>
    .ofParameters [.required "self", .required "model", .optional "operators"] (by decide)
  | .pagination =>
    .ofParameters
      [.required "self", .required "model", ⟨"default_page", some (.int 1)⟩,
        ⟨"default_size", some (.int 30)⟩, .optional "max_size"] (by decide)

def SectionName.parameters (part : SectionName) : List (String × Value) := part.signature.defaults

def switchOf (name : String) : String := name ++ "_enabled"

namespace Settings

/-- All settings with their default values. -/
def defaults : List (String × Value) :=
  [("force_include", .null),
    ("operators", .null),
    ("default_page", .int 1),
    ("default_size", .int 30),
    ("max_size", .null),
    ("fields_enabled", .bool true),
    ("embed_enabled", .bool true),
    ("filters_enabled", .bool true),
    ("sort_enabled", .bool true),
    ("pagination_enabled", .bool true)]

def valueOf (settings : Dict) (name : String) (default : Value) : Value :=
  (settings.get? (.text name)).getD default

/-- The parameters with the values that the settings give them. -/
def pick (settings : Dict) (parameters : List (String × Value)) : List (String × Value) :=
  parameters.map fun p => (p.1, valueOf settings p.1 p.2)

/-- What the settings have for a function. -/
def pluck (settings : Dict) (s : Signature) : List (String × Value) := pick settings s.defaults

def isSetting : Value → Bool
  | .text s => defaults.any fun p => p.1 == s
  | _ => false

/-- All settings, those that are not given with their default values; other names are refused. -/
def complete (given : Dict) : Except Fault Dict :=
  if given.keys.all isSetting then
    .ok ((pick given defaults).map fun p => (.text p.1, p.2))
  else .error .mismatch

end Settings

/-- Settings, and who has asked for them. -/
structure Keeper where
  settings : Dict
  /-- Names under which settings were asked for. -/
  asked : List String := []
  /-- Parameters that were asked for. -/
  known : List String := []
  /-- Names of sections that are switched off. -/
  disabled : List String := []
deriving Repr

namespace Keeper

/-- Keeps settings, which have to be a mapping. -/
def ofValue (v : Value) : Except Fault Keeper :=
  match v with
  | .dict entries => .ok { settings := entries }
  | v => .error (.settingsShape v.kind)

/-- Gives whoever asks, under any name, the settings of a signature. -/
def ask (k : Keeper) (name : String) (s : Signature) : Keeper × List (String × Value) :=
  let off := (Settings.valueOf k.settings (switchOf name) (.bool true)).isFalsy
  ({ k with
      asked := name :: k.asked
      known := s.defaults.map Prod.fst ++ k.known
      disabled := if off then name :: k.disabled else k.disabled },
   Settings.pluck k.settings s)

/-- Gives a section its settings, under any name. -/
def take (k : Keeper) (name : String) (part : SectionName) : Keeper × List (String × Value) :=
  k.ask name part.signature

def isEnabled (k : Keeper) (name : String) : Bool := !k.disabled.contains name

/-- Refuses a section that is switched off. -/
def requireEnabled (k : Keeper) (model name : String) : Except Fault Unit :=
  if k.isEnabled name then .ok () else .error (.disabled name model)

/-- Whether a setting is known: a parameter or a switch that was asked for. -/
def knows (k : Keeper) (key : String) : Bool :=
  k.known.contains key || k.asked.any fun name => switchOf name == key

/-- The settings that nobody knows; a key that is no text is nobody's. -/
def unknown (k : Keeper) : List Value :=
  k.settings.keys.filter fun key => !key.text?.any k.knows

/-- Why unknown settings are refused. Only texts can be put in order and joined. -/
def unknownFault (owner : String) (keys : List Value) : Fault :=
  match Value.texts? keys with
  | some names => .unknownSettings owner (Text.sortTexts names)
  | none => .mismatch

/-- Refuses settings that nobody knows, in the name of their owner. -/
def requireKnown (k : Keeper) (owner : String) : Except Fault Unit :=
  match k.unknown with
  | [] => .ok ()
  | keys => .error (unknownFault owner keys)

def written (k : Keeper) : String :=
  "MongoFilterSettingsHandler(" ++ Value.written (.dict k.settings) ++ ")"

theorem ask_snd (k : Keeper) (name : String) (s : Signature) :
    (k.ask name s).2 = Settings.pluck k.settings s := rfl

theorem ask_settings (k : Keeper) (name : String) (s : Signature) :
    (k.ask name s).1.settings = k.settings := rfl

theorem take_snd (k : Keeper) (name : String) (part : SectionName) :
    (k.take name part).2 = Settings.pick k.settings part.parameters := rfl

theorem take_settings (k : Keeper) (name : String) (part : SectionName) :
    (k.take name part).1.settings = k.settings := rfl

end Keeper
end QueryOptions
