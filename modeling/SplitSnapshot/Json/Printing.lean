import SplitSnapshot.Decimal.Shortest
import SplitSnapshot.Json.Value

namespace SplitSnapshot

namespace Json

def escapeLetter? (c : Char) : Option Char :=
  if c = '\x22' then some '\x22'
  else if c = '\x5c' then some '\x5c'
  else if c = '\x08' then some 'b'
  else if c = '\x0c' then some 'f'
  else if c = '\n' then some 'n'
  else if c = '\r' then some 'r'
  else if c = '\t' then some 't'
  else none

def escape (c : Char) : List Char :=
  match escapeLetter? c with
  | some l => ['\x5c', l]
  | none =>
      if c.toNat < 0x20 then
        ['\x5c', 'u', '0', '0', Text.lowerHexChar (c.toNat / 16), Text.lowerHexChar (c.toNat % 16)]
      else [c]

def quoted (s : String) : List Char :=
  '\x22' :: s.toList.flatMap escape ++ ['\x22']

mutual

def chars : Json → List Char
  | null => "null".toList
  | bool true => "true".toList
  | bool false => "false".toList
  | int n => Text.signedDecimal n
  | float x => x.documentText
  | text s => quoted s
  | list items => '[' :: itemChars items ++ [']']
  | object fields => '\x7b' :: fieldChars fields ++ ['\x7d']

def itemChars : List Json → List Char
  | [] => []
  | [v] => chars v
  | v :: w :: vs => chars v ++ ',' :: itemChars (w :: vs)

def fieldChars : List (String × Json) → List Char
  | [] => []
  | [(k, v)] => quoted k ++ ':' :: chars v
  | (k, v) :: f :: fs => quoted k ++ ':' :: chars v ++ ',' :: fieldChars (f :: fs)

end

def print (v : Json) : String :=
  String.ofList v.chars

end Json

end SplitSnapshot
