import Mathlib.Data.List.TakeWhile
import AmurCore.LabelledTrees

/-!
# The configuration

`ConfigProcessor` keeps a `libconfig::Config` and offers four searches and four
rewrites of single settings. The library itself is a parameter: what it looks up,
converts and assigns, and what it throws. A `Setting &` is the place of the
setting in the tree.
-/

namespace ConfigProcessor

open LabelledTrees

/-! ### Settings -/

def nul : Char := Char.ofNat 0

/-- A text that a `const char *` points to. -/
structure CString where
  text : String
  ends : nul ∉ text.toList

/-- `c_str()` of a `std::string`, which is read up to its first NUL. -/
def CString.of (value : String) : CString where
  text := String.ofList (value.toList.takeWhile (· ≠ nul))
  ends := by
    rw [String.toList_ofList]
    intro mem
    simpa using List.mem_takeWhile_imp mem

inductive Aggregate where
  | group
  | array
  | list
  deriving DecidableEq

/-- The value of a scalar setting; `D` is `double`. -/
inductive Scalar (D : Type) where
  | none
  | int (value : Int32)
  | int64 (value : Int64)
  | float (value : D)
  | string (value : CString)
  | boolean (value : Bool)

/-- `libconfig::Setting::Type`. -/
inductive SettingType where
  | none
  | int
  | int64
  | float
  | string
  | boolean
  | group
  | array
  | list
  deriving DecidableEq

/-- The settings below the root, with their names; elements of arrays and lists
have none. -/
abbrev Config (D : Type) := Tree Aggregate (Option String) (Scalar D)

def Scalar.type {D : Type} : Scalar D → SettingType
  | .none => .none
  | .int _ => .int
  | .int64 _ => .int64
  | .float _ => .float
  | .string _ => .string
  | .boolean _ => .boolean

def settingType {D : Type} : Entry Aggregate (Option String) (Scalar D) → SettingType
  | .leaf value => value.type
  | .node .group _ => .group
  | .node .array _ => .array
  | .node .list _ => .list

/-! ### The library -/

/-- The exceptions of lookups, conversions and assignments. -/
inductive Exception where
  | settingNotFound
  | settingType
  deriving DecidableEq

/-- What `ConfigProcessor` calls: `Config::lookup`, `Setting::c_str`, the
conversions of `Setting`, and its assignments, which may throw. `F` is `float`. -/
structure Libconfig (D F : Type) where
  lookup : Config D → String → Except Exception Place
  cStr : Config D → Place → Except Exception CString
  toInt : Config D → Place → Except Exception Int32
  toFloat : Config D → Place → Except Exception F
  toBool : Config D → Place → Except Exception Bool
  assignString : Config D → Place → String → Except Exception Unit × Config D
  assignInt : Config D → Place → Int32 → Except Exception Unit × Config D
  assignFloat : Config D → Place → F → Except Exception Unit × Config D
  assignBool : Config D → Place → Bool → Except Exception Unit × Config D

/-! ### Searches and rewrites -/

def exitSuccess : Int := 0

def exitFailure : Int := 1

/-- How a call ends: with a code, or with the exception that leaves it. -/
structure Outcome (σ : Type) where
  result : Except Exception Int
  cerr : List String
  state : σ

variable {D F V : Type} (lib : Libconfig D F)

/-- What the searches do, with the configuration and the out parameter as state. -/
def search (convert : Config D → Place → Except Exception V) (config : Config D)
    (settingName : String) (out : V) : Outcome (Config D × V) :=
  if settingName = "" then ⟨.ok exitFailure, [], (config, out)⟩
  else
    match (lib.lookup config settingName).bind (convert config) with
    | .ok value => ⟨.ok exitSuccess, [], (config, value)⟩
    | .error .settingNotFound =>
      ⟨.ok exitFailure, ["No setting in configuration file: " ++ settingName], (config, out)⟩
    -- no other exception is caught
    | .error e => ⟨.error e, [], (config, out)⟩

def searchString (config : Config D) (settingName : String) (out : String) :
    Outcome (Config D × String) :=
  search lib (fun config setting => (lib.cStr config setting).map CString.text) config
    settingName out

def searchInt (config : Config D) (settingName : String) (out : Int32) :
    Outcome (Config D × Int32) :=
  search lib lib.toInt config settingName out

def searchFloat (config : Config D) (settingName : String) (out : F) : Outcome (Config D × F) :=
  search lib lib.toFloat config settingName out

def searchBool (config : Config D) (settingName : String) (out : Bool) :
    Outcome (Config D × Bool) :=
  search lib lib.toBool config settingName out

/-- The two `catch` clauses of a rewrite. -/
def catchRewrite (settingName : String) (config : Config D) : Exception → Outcome (Config D)
  | .settingNotFound => ⟨.ok exitFailure, ["Parameter not found!: " ++ settingName], config⟩
  | .settingType => ⟨.ok exitFailure, ["Type is wrong!: " ++ settingName], config⟩

/-- What the rewrites do. -/
def rewrite (assign : Config D → Place → V → Except Exception Unit × Config D)
    (config : Config D) (settingName : String) (value : V) : Outcome (Config D) :=
  if settingName = "" then ⟨.ok exitFailure, [], config⟩
  else
    match lib.lookup config settingName with
    | .error e => catchRewrite settingName config e
    | .ok param =>
      match assign config param value with
      | (.ok _, config) => ⟨.ok exitSuccess, [], config⟩
      | (.error e, config) => catchRewrite settingName config e

def rewriteString (config : Config D) (settingName : String) (value : String) :
    Outcome (Config D) :=
  rewrite lib lib.assignString config settingName value

def rewriteInt (config : Config D) (settingName : String) (value : Int32) : Outcome (Config D) :=
  rewrite lib lib.assignInt config settingName value

def rewriteFloat (config : Config D) (settingName : String) (value : F) : Outcome (Config D) :=
  rewrite lib lib.assignFloat config settingName value

def rewriteBool (config : Config D) (settingName : String) (value : Bool) : Outcome (Config D) :=
  rewrite lib lib.assignBool config settingName value

end ConfigProcessor
