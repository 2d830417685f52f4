/-! # XML

Elements with attributes, and their text. Markup characters in attributes and texts are escaped, so
no text can end the attribute or the element that it is in.
-/

namespace LadderAtlas

inductive Xml where
  | text (content : String)
  /-- An element without content, written as a single tag. -/
  | empty (name : String) (attributes : List (String × String))
  | element (name : String) (attributes : List (String × String)) (content : List Xml)

namespace Xml

/-- The characters that stand for a character of an attribute or a text. -/
def escapeChar (c : Char) : List Char :=
  if c = '&' then ['&', 'a', 'm', 'p', ';']
  else if c = '<' then ['&', 'l', 't', ';']
  else if c = '>' then ['&', 'g', 't', ';']
  else if c = '\x27' then ['&', 'a', 'p', 'o', 's', ';']
  else [c]

def escape (cs : List Char) : List Char := cs.flatMap escapeChar

def attributeChars (pair : String × String) : List Char :=
  ' ' :: pair.1.toList ++ ['=', '\x27'] ++ escape pair.2.toList ++ ['\x27']

def tagChars (name : String) (attributes : List (String × String)) : List Char :=
  '<' :: name.toList ++ attributes.flatMap attributeChars

mutual

def chars : Xml → List Char
  | .text content => escape content.toList
  | .empty name attributes => tagChars name attributes ++ ['/', '>']
  | .element name attributes content =>
    tagChars name attributes ++ '>' ::
      (contentChars content ++ '<' :: '/' :: (name.toList ++ ['>']))

def contentChars : List Xml → List Char
  | [] => []
  | x :: rest => chars x ++ contentChars rest

end

def render (x : Xml) : String := String.ofList x.chars

end Xml

end LadderAtlas
