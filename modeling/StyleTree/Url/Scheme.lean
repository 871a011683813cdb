/-!
# Schemes

What a scheme implies: a port number, and for the schemes of the web that a backslash is a slash.
-/

namespace StyleTree.Url

/-- The port number that a scheme of the web implies; `file` has none. -/
def defaultPort? : String → Option (Option Nat)
  | "http" | "ws" => some (some 80)
  | "https" | "wss" => some (some 443)
  | "ftp" => some (some 21)
  | "file" => some none
  | _ => none

/-- The schemes of the web, for which a backslash is a slash and the host has to be a domain. -/
def isSpecial (scheme : String) : Bool :=
  (defaultPort? scheme).isSome

/-- A slash, or a backslash that counts as one. -/
def isSlash (special : Bool) (c : Char) : Bool :=
  c == '/' || (special && c == '\\')

end StyleTree.Url
