import Copilotd.Base.JsonText
import Mathlib.Data.List.Sort

/-!
# Canonical JSON texts

`json.dumps(value, ensure_ascii=False, sort_keys=True, separators=(",", ":"))`.
-/
namespace Copilotd.Base.Json

def escapeControl (char : Char) : String :=
  if 32 ≤ char.toNat ∧ char ≠ '"' ∧ char ≠ '\\' then String.singleton char else escapeChar char

def quotedUnicode (text : String) : String :=
  "\"" ++ String.join (text.toList.map escapeControl) ++ "\""

mutual

def canonical : Json → String
  | .null => "null"
  | .bool value => if value then "true" else "false"
  | .int value => toString value
  | .float literal => literal
  | .str text => quotedUnicode text
  | .list items => "[" ++ joined (canonicalAll items) ++ "]"
  | .dict items =>
    let sorted := (canonicalItems items).insertionSort fun one other => one.1 ≤ other.1
    "\x7b" ++ joined (sorted.map fun item => quotedUnicode item.1 ++ ":" ++ item.2) ++ "\x7d"

def canonicalAll : List Json → List String
  | [] => []
  | item :: items => canonical item :: canonicalAll items

def canonicalItems : List (String × Json) → List (String × String)
  | [] => []
  | (key, item) :: items => (key, canonical item) :: canonicalItems items

end

end Copilotd.Base.Json
