import NamingDirectory.Unicode.Unprintable
import NamingDirectory.Unicode.GraphemeExtend

/-!
Quoted text in debug form, escaping what is not printable as `\u` codes.
-/

namespace NamingDirectory.Text

open NamingDirectory.Unicode

/-- The hexadecimal digits of a code point, lowercase, without leading zeros. -/
def hexCode (c : Char) : String := String.ofList (Nat.toDigits 16 c.toNat)

/-- The escaped form of one character; `inText` tells whether the delimiter is `"`. -/
def escapeChar (inText : Bool) (c : Char) : String :=
  if c.toNat == 0 then "\\0"
  else if c == '\t' then "\\t"
  else if c == '\r' then "\\r"
  else if c == '\n' then "\\n"
  else if c == '\\' then "\\\\"
  else if c == '"' then (if inText then "\\\"" else "\"")
  else if c == '\'' then (if inText then "'" else "\\'")
  else if c.toNat < 0x7F && c.toNat ≥ 0x20 then c.toString
  else if graphemeExtend.contains c || escapedInText.contains c then
    "\\u\x7b" ++ hexCode c ++ "\x7d"
  else c.toString

/-- A text in double quotes with its characters escaped. -/
def quote (s : String) : String :=
  "\"" ++ String.join (s.toList.map (escapeChar true)) ++ "\""

/-- A character in single quotes, escaped. -/
def quoteChar (c : Char) : String := "'" ++ escapeChar false c ++ "'"

end NamingDirectory.Text
