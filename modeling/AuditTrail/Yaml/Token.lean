import AuditTrail.Yaml.Source

/-!
# Yaml/Token — what a document is written in

A document is a list of `Token`s.  Those that open and close a block, and the key mark before a key
that is written without one, stand for the layout.
-/

namespace AuditTrail.Yaml

/-- A line that tells how to read the document. -/
inductive Directive
  /-- The version of the language; the part before the point counts. -/
  | version (major : Nat)
  /-- The text that a handle stands for. -/
  | handle (name text : String)
  /-- Any other directive is ignored. -/
  | unknown
  deriving DecidableEq, Repr

/-- **A part of a document.** -/
inductive Token
  | directive (content : Directive)
  | documentStart | documentEnd
  | openSequence | openMapping | closeBlock
  | leftBracket | rightBracket | leftBrace | rightBrace
  | dash | comma | key | value
  | alias (name : String)
  | anchor (name : String)
  | tag (handle : Option String) (suffix : String)
  | scalar (text : String) (plain : Bool)
  deriving DecidableEq, Repr

/-- **The tokens that a text was cut into**, and why there are no more, if the text is not at its end. -/
structure Scanned where
  tokens : List Token
  stop : Option Failure

end AuditTrail.Yaml
