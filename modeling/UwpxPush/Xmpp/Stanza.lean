import Mathlib.Data.String.Basic
import Mathlib.Tactic.Common

/-!
# Stanzas

A stanza is a tree of tags with attributes and of text nodes.  The functions of
`libstrophe` on stanzas return a null pointer for what is absent; here they return `none`.
-/

/-- A node of an XML tree. -/
inductive Stanza where
  | tag (name : String) (attributes : List (String × String)) (children : List Stanza)
  | text (data : String)

namespace Stanza

/-- `xmpp_stanza_get_name`, which is null for a text node. -/
def getName : Stanza → Option String
  | tag name _ _ => some name
  | text _ => none

/-- `xmpp_stanza_get_attribute`. -/
def getAttribute (key : String) : Stanza → Option String
  | tag _ attributes _ => (attributes.find? fun a => a.1 == key).map Prod.snd
  | text _ => none

/-- `xmpp_stanza_get_ns`. -/
def getNs : Stanza → Option String :=
  getAttribute "xmlns"

/-- `xmpp_stanza_get_children` and the siblings reached by `xmpp_stanza_get_next`. -/
def getChildren : Stanza → List Stanza
  | tag _ _ children => children
  | text _ => []

/-- `xmpp_stanza_get_child_by_name`: the first child that is a tag of that name. -/
def getChildByName (name : String) (s : Stanza) : Option Stanza :=
  s.getChildren.find? fun c => c.getName == some name

/-- The data of a text node. -/
def getData : Stanza → String
  | tag _ _ _ => ""
  | text data => data

/-- `xmpp_stanza_get_text`: the text of a text node or of the text children of a tag, null
for a tag without such text. -/
def getText : Stanza → Option String
  | text data => some data
  | s@(tag _ _ _) =>
      let t := String.join (s.getChildren.map getData)
      if t = "" then none else some t

/-- `xmpp_stanza_add_child`. -/
def addChild (s child : Stanza) : Stanza :=
  match s with
  | tag name attributes children => tag name attributes (children ++ [child])
  | text data => text data

end Stanza
