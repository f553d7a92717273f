import MockCollector.Text.Hidden
/-!
# Quoted text

Text between double quotes, on one line and with nothing in it that a reader could miss.

* `escapeChar c`   `c` as it stands between quotes: a backslash goes in front of a quote and a backslash,
                   a letter stands for a control that has one, and a hidden character is given by its
                   number;
* `quoted s`       `s` between quotes.
-/

namespace MockCollector

def escapeChar (c : Char) : List Char :=
  if c = '\x00' then ['\\', '0']
  else if c = '\t' then ['\\', 't']
  else if c = '\r' then ['\\', 'r']
  else if c = '\n' then ['\\', 'n']
  else if c = '\\' then ['\\', '\\']
  else if c = '"' then ['\\', '"']
  else if isHidden c then ['\\', 'u', '\x7b'] ++ Nat.toDigits 16 c.toNat ++ ['\x7d']
  else [c]

def escaped (cs : List Char) : List Char := cs.flatMap escapeChar

def quoted (s : String) : String := "\"" ++ String.ofList (escaped s.toList) ++ "\""

end MockCollector
