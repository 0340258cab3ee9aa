import ChartConfig.Report.Basic

/-!
# Reports in JSON

One value a line, two spaces a level, characters beyond ASCII as they are.
-/

namespace ChartConfig

namespace Json

def hexDigit (n : Nat) : Char :=
  if n < 10 then Char.ofNat (48 + n) else Char.ofNat (87 + n)

def quoteChar (c : Char) : List Char :=
  if c == '"' then ['\\', '"']
  else if c == '\\' then ['\\', '\\']
  else if c == '\n' then ['\\', 'n']
  else if c == '\r' then ['\\', 'r']
  else if c == '\t' then ['\\', 't']
  else if c.toNat = 8 then ['\\', 'b']
  else if c.toNat = 12 then ['\\', 'f']
  else if c.toNat < 0x20 then
    ['\\', 'u', '0', '0', hexDigit (c.toNat / 16), hexDigit (c.toNat % 16)]
  else [c]

def quote (s : String) : String :=
  String.ofList ('"' :: s.toList.flatMap quoteChar ++ ['"'])

end Json

namespace Tree

def jsonBreak (level : Nat) : String :=
  "\n" ++ String.ofList (List.replicate (2 * level) ' ')

mutual

def toJson (level : Nat) : Tree → String
  | number n => toString n
  | text s => Json.quote s
  | list [] => "[]"
  | list (item :: items) =>
    "[" ++ jsonBreak (level + 1) ++ item.toJson (level + 1) ++ jsonItems (level + 1) items ++
      jsonBreak level ++ "]"
  | record [] => "\x7b\x7d"
  | record ((key, value) :: entries) =>
    "\x7b" ++ jsonBreak (level + 1) ++ Json.quote key ++ ": " ++ value.toJson (level + 1) ++
      jsonEntries (level + 1) entries ++ jsonBreak level ++ "\x7d"

def jsonItems (level : Nat) : List Tree → String
  | [] => ""
  | item :: items => "," ++ jsonBreak level ++ item.toJson level ++ jsonItems level items

def jsonEntries (level : Nat) : List (String × Tree) → String
  | [] => ""
  | (key, value) :: entries =>
    "," ++ jsonBreak level ++ Json.quote key ++ ": " ++ value.toJson level ++ jsonEntries level entries

end

end Tree

def Report.toJson (r : Report) : String :=
  (Tree.ofReport r).toJson 0

end ChartConfig
