import ClassMetrics.Config.Toml
import ClassMetrics.Json.Basic

/-!
The engine's settings, read from a TOML document or a JSON object. A setting that is left
out keeps its default; an unknown setting or a value of the wrong type makes the whole
document unreadable. Distribution limits must then be non-empty and strictly increasing,
the limits for RFC being checked before those for LCOM4.
-/

namespace ClassMetrics

/-- The engine's settings. -/
structure EngineConfig where
  parallel : Bool := true
  rfcExcludeAccessors : Bool := false
  lcom4ExcludeAccessors : Bool := true
  lcom4ExcludedFields : List String := []
  rfcDistributionLimits : List Nat := [0, 5, 10, 20, 30, 50, 90, 150]
  lcom4DistributionLimits : List Nat := [2, 3, 4, 5, 10]
  deriving DecidableEq, Repr

/-- Why settings were refused. -/
inductive ConfigError
  /-- The document is not readable as settings: bad syntax, an unknown key or a wrong type. -/
  | unreadable
  /-- A list of limits is empty. -/
  | emptyLimits (name : String)
  /-- A list of limits is not strictly increasing. -/
  | unorderedLimits (name : String) (limits : List Nat)
  deriving DecidableEq, Repr

namespace ConfigError

/-- The sentence that reports a refusal. -/
def message : ConfigError → String
  | .unreadable => "invalid configuration"
  | .emptyLimits n => n ++ " must not be empty"
  | .unorderedLimits n ls =>
    n ++ " must be strictly increasing, got [" ++ ", ".intercalate (ls.map toString) ++ "]"

end ConfigError

/-- A setting's value, whichever document it was read from. -/
inductive Setting
  | bool (b : Bool)
  | int (n : Int)
  | str (s : String)
  | list (items : List Setting)
  /-- A value of a type no setting has. -/
  | other
  deriving Repr, Inhabited

/-- A TOML value as a setting. -/
def Setting.ofToml : Toml.Value → Setting
  | .bool b => .bool b
  | .int n => .int n
  | .str s => .str s
  | .arr xs => .list (xs.map Setting.ofToml)

/-- A JSON value as a setting; only integer literals are integers. -/
def Setting.ofJson : Json.Value → Setting
  | .bool b => .bool b
  | .int n => .int n
  | .str s => .str s
  | .arr xs => .list (xs.map Setting.ofJson)
  | _ => .other

namespace Setting

/-- A boolean setting. -/
def bool? : Setting → Option Bool
  | .bool b => some b
  | _ => none

/-- A list of strings. -/
def strings? : Setting → Option (List String)
  | .list xs => xs.mapM fun | .str s => some s | _ => none
  | _ => none

/-- A list of 32-bit unsigned integers. -/
def limits? : Setting → Option (List Nat)
  | .list xs => xs.mapM fun
    | .int n => if 0 ≤ n ∧ n < 2 ^ 32 then some n.toNat else none
    | _ => none
  | _ => none

end Setting

namespace EngineConfig

/-- Applies one named setting. -/
def set (c : EngineConfig) (name : String) (v : Setting) : Option EngineConfig :=
  match name with
  | "parallel" => v.bool?.map fun b => { c with parallel := b }
  | "rfc_exclude_accessors" => v.bool?.map fun b => { c with rfcExcludeAccessors := b }
  | "lcom4_exclude_accessors" => v.bool?.map fun b => { c with lcom4ExcludeAccessors := b }
  | "lcom4_excluded_fields" => v.strings?.map fun fs => { c with lcom4ExcludedFields := fs }
  | "rfc_distribution_limits" => v.limits?.map fun ls => { c with rfcDistributionLimits := ls }
  | "lcom4_distribution_limits" =>
    v.limits?.map fun ls => { c with lcom4DistributionLimits := ls }
  | _ => none

/-- Settings over the defaults, in order. -/
def ofSettings (settings : List (String × Setting)) : Option EngineConfig :=
  settings.foldlM (fun c (n, v) => c.set n v) {}

/-- Checks one list of limits. -/
def checkLimits (name : String) (limits : List Nat) : Except ConfigError Unit :=
  if limits.isEmpty then .error (.emptyLimits name)
  else if (limits.zip limits.tail).any fun (a, b) => a ≥ b then
    .error (.unorderedLimits name limits)
  else .ok ()

/-- Checks both lists of limits, RFC first. -/
def validate (c : EngineConfig) : Except ConfigError EngineConfig := do
  checkLimits "rfc_distribution_limits" c.rfcDistributionLimits
  checkLimits "lcom4_distribution_limits" c.lcom4DistributionLimits
  pure c

/-- Settings from a TOML document, checked. -/
def ofToml (text : String) : Except ConfigError EngineConfig :=
  match (Toml.parse text).bind fun pairs => ofSettings (pairs.map fun (k, v) => (k, .ofToml v)) with
  | some c => c.validate
  | none => .error .unreadable

/-- Settings from a JSON object, checked; a name given twice counts with its last value. -/
def ofJson (v : Json.Value) : Except ConfigError EngineConfig :=
  match v with
  | .obj fields =>
    let names := fields.map (·.1) |>.eraseDups
    let settings := names.filterMap fun n => (v.field? n).map fun x => (n, Setting.ofJson x)
    match ofSettings settings with
    | some c => c.validate
    | none => .error .unreadable
  | _ => .error .unreadable

/-- Whether a field name is left out of LCOM4. -/
def isExcluded (c : EngineConfig) (field : String) : Bool := c.lcom4ExcludedFields.contains field

/-- The settings as JSON. -/
def toJson (c : EngineConfig) : Json.Value :=
  .obj [("parallel", .bool c.parallel), ("rfc_exclude_accessors", .bool c.rfcExcludeAccessors),
    ("lcom4_exclude_accessors", .bool c.lcom4ExcludeAccessors),
    ("lcom4_excluded_fields", Json.Value.ofStrings c.lcom4ExcludedFields),
    ("rfc_distribution_limits", .arr (c.rfcDistributionLimits.map fun (n : Nat) => .int n)),
    ("lcom4_distribution_limits", .arr (c.lcom4DistributionLimits.map fun (n : Nat) => .int n))]

end EngineConfig

end ClassMetrics
