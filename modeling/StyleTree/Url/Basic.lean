/-!
# URLs

A URL by its parts, each in the form in which it is written.
-/

namespace StyleTree

/-- The part after two slashes: who to ask where. -/
structure Authority where
  username : String
  password : String
  host : String
  /-- Absent if it is the one that the scheme implies. -/
  port : Option Nat
deriving DecidableEq, Repr, Inhabited

inductive UrlPath where
  /-- Text without structure, as in `data:,x`. -/
  | whole (text : String)
  | segments (list : List String)
deriving DecidableEq, Repr, Inhabited

structure Url where
  scheme : String
  authority : Option Authority
  path : UrlPath
  query : Option String
  fragment : Option String
deriving DecidableEq, Repr, Inhabited

namespace Authority

def text (a : Authority) : String :=
  let credentials :=
    if a.username = "" ∧ a.password = "" then ""
    else a.username ++ (if a.password = "" then "" else ":" ++ a.password) ++ "@"
  credentials ++ a.host ++ a.port.elim "" fun n => ":" ++ toString n

end Authority

namespace UrlPath

def text : UrlPath → String
  | whole text => text
  | segments list => String.join (list.map ("/" ++ ·))

end UrlPath

namespace Url

/-- The URL up to its query, as a text. -/
def resource (u : Url) : String :=
  let front :=
    match u.authority, u.path with
    | some a, _ => "//" ++ a.text
    -- Without an authority, two slashes must not come first.
    | none, .segments ("" :: _ :: _) => "/."
    | none, _ => ""
  u.scheme ++ ":" ++ front ++ u.path.text ++ u.query.elim "" ("?" ++ ·)

def text (u : Url) : String :=
  u.resource ++ u.fragment.elim "" ("#" ++ ·)

/-- The URL up to its query. Two URLs that agree in it name the same resource. -/
def withoutFragment (u : Url) : Url :=
  { u with fragment := none }

end Url

end StyleTree
