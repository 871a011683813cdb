import StyleTree.Text.Charset
import StyleTree.Url.Data

/-!
# Loading style sheets

Where the text of linked style sheets comes from. The loader that is always there reads `data:`
URLs.
-/

namespace StyleTree

inductive LoadError where
  | unsupportedScheme (scheme : String)
  | malformed (reason : String)
  | network (reason : String)
deriving DecidableEq, Repr

namespace LoadError

def message : LoadError → String
  | unsupportedScheme scheme => "unsupported URL scheme \x60" ++ scheme ++ "\x60"
  | malformed reason => "malformed resource: " ++ reason
  | network reason => "network error: " ++ reason

end LoadError

/-- Finds the text of the style sheet at a URL. -/
abbrev Loader := Url → Except LoadError String

/-- The text that a `data:` URL holds, in the encoding that it names. -/
def Loader.dataUrls : Loader := fun url =>
  if url.scheme ≠ "data" then .error (.unsupportedScheme url.scheme)
  else
    match DataUrl.resource? url with
    | none => .error (.malformed "not a data URL")
    | some r =>
      let label := r.parameters.find? (·.1 == "charset")
      let charset := (label.bind (Charset.ofLabel? ·.2)).getD .utf8
      .ok (charset.decode r.body)

/-- A loader that knows the answers for some URLs, where the absence of a text is a failure of the
network. All other URLs have to be `data:` URLs. -/
def Loader.ofTable (table : List (String × Option String)) : Loader := fun url =>
  match table.find? (·.1 == url.text) with
  | some (_, some text) => .ok text
  | some (_, none) => .error (.network "unreachable")
  | none => Loader.dataUrls url

end StyleTree
