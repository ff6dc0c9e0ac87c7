import Copilotd.Base.Json

/-!
# JSON texts

`json.dumps(value, separators=(",", ":"))` with its default `ensure_ascii`.  The length of the text
of a list or a dictionary is the sum of the lengths of its parts.
-/
namespace Copilotd.Base.Json

def hexDigit (n : Nat) : Char := "0123456789abcdef".toList.getD n '0'

/-- `'\\u{0:04x}'.format(n)`. -/
def unicodeEscape (n : Nat) : String :=
  String.ofList ['\\', 'u', hexDigit (n / 4096 % 16), hexDigit (n / 256 % 16),
    hexDigit (n / 16 % 16), hexDigit (n % 16)]

def escapeChar (char : Char) : String :=
  if char = '"' then "\\\""
  else if char = '\\' then "\\\\"
  else if char = '\n' then "\\n"
  else if char = '\r' then "\\r"
  else if char = '\t' then "\\t"
  else if char.toNat = 8 then "\\b"
  else if char.toNat = 12 then "\\f"
  else if 32 ≤ char.toNat ∧ char.toNat ≤ 126 then String.singleton char
  else if char.toNat < 65536 then unicodeEscape char.toNat
  else
    let rest := char.toNat - 65536
    unicodeEscape (55296 + rest / 1024 % 1024) ++ unicodeEscape (56320 + rest % 1024)

def quoted (text : String) : String :=
  "\"" ++ String.join (text.toList.map escapeChar) ++ "\""

/-- `",".join(parts)`. -/
def joined : List String → String
  | [] => ""
  | [part] => part
  | part :: next :: parts => part ++ "," ++ joined (next :: parts)

mutual

def dumps : Json → String
  | .null => "null"
  | .bool value => if value then "true" else "false"
  | .int value => toString value
  | .float literal => literal
  | .str text => quoted text
  | .list items => "[" ++ joined (dumpsAll items) ++ "]"
  | .dict items => "\x7b" ++ joined (dumpsItems items) ++ "\x7d"

def dumpsAll : List Json → List String
  | [] => []
  | item :: items => dumps item :: dumpsAll items

def dumpsItems : List (String × Json) → List String
  | [] => []
  | (key, item) :: items => (quoted key ++ ":" ++ dumps item) :: dumpsItems items

end

/-- `len(json.dumps(value).encode("utf-8"))`. -/
def size (value : Json) : Nat := (dumps value).utf8ByteSize

theorem dumpsAll_eq_map (items : List Json) : dumpsAll items = items.map dumps := by
  induction items with
  | nil => rfl
  | cons item items ih => rw [dumpsAll, ih, List.map_cons]

theorem dumpsItems_eq_map (items : List (String × Json)) :
    dumpsItems items = items.map fun item => quoted item.1 ++ ":" ++ dumps item.2 := by
  induction items with
  | nil => rfl
  | cons item items ih => rw [dumpsItems, ih, List.map_cons]

theorem size_joined (parts : List String) :
    (joined parts).utf8ByteSize = (parts.map String.utf8ByteSize).sum + (parts.length - 1) := by
  induction parts with
  | nil => rfl
  | cons part parts ih =>
    cases parts with
    | nil => simp [joined]
    | cons next parts =>
      have comma : ",".utf8ByteSize = 1 := rfl
      rw [joined, String.utf8ByteSize_append, String.utf8ByteSize_append, ih, comma]
      simp only [List.map_cons, List.sum_cons, List.length_cons]
      omega

theorem size_list (items : List Json) :
    size (.list items) = (items.map size).sum + (items.length - 1) + 2 := by
  have brackets : "[".utf8ByteSize = 1 ∧ "]".utf8ByteSize = 1 := ⟨rfl, rfl⟩
  unfold size
  rw [dumps, String.utf8ByteSize_append, String.utf8ByteSize_append, size_joined, dumpsAll_eq_map,
    List.map_map, List.length_map, brackets.1, brackets.2]
  simp only [Function.comp_def]
  omega

theorem size_dict_item (before after : List (String × Json)) (key : String) :
    ∃ rest, ∀ value, size (.dict (before ++ (key, value) :: after)) = rest + size value := by
  refine ⟨size (.dict (before ++ (key, .null) :: after)) - 4, ?_⟩
  intro value
  have null : size .null = 4 := rfl
  have expand (value : Json) : size (.dict (before ++ (key, value) :: after)) =
      (joined (dumpsItems (before ++ (key, value) :: after))).utf8ByteSize + 2 := by
    have braces : "\x7b".utf8ByteSize = 1 ∧ "\x7d".utf8ByteSize = 1 := ⟨rfl, rfl⟩
    unfold size
    rw [dumps, String.utf8ByteSize_append, String.utf8ByteSize_append, braces.1, braces.2]
    omega
  have entry (value : Json) : (quoted key ++ ":" ++ dumps value).utf8ByteSize =
      (quoted key ++ ":").utf8ByteSize + size value := by
    rw [String.utf8ByteSize_append]
    rfl
  rw [expand, expand, size_joined, size_joined, dumpsItems_eq_map, dumpsItems_eq_map]
  simp only [List.map_append, List.map_cons, List.sum_append, List.sum_cons, List.length_append,
    List.length_cons, List.length_map, entry]
  omega

end Copilotd.Base.Json
