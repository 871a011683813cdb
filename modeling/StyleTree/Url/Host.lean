import StyleTree.Url.Address
import StyleTree.Url.Domain
import StyleTree.Url.Percent

/-!
# Hosts

A host is a domain or an address. Schemes beyond those of the web have hosts that are neither.
-/

namespace StyleTree.Host

/-- Characters that no host can hold. -/
def isForbidden (c : Char) : Bool :=
  ['\x00', '\t', '\n', '\r', ' ', '#', '/', ':', '<', '>', '?', '@', '[', '\\', ']', '^',
    '|'].contains c

/-- The address between brackets, after the opening one. -/
def bracketed? (r : List Char) : Option String :=
  match r.reverse with
  | ']' :: inner => (ipv6Groups? inner.reverse).map fun gs => "[" ++ ipv6Text gs ++ "]"
  | _ => none

/-- The domain, or the address that its last label asks for. -/
def domain? (s : List Char) : Option String :=
  match Domain.ofName? (Utf8.decode (Percent.decode s)) with
  | some [] => none
  | some domain => if endsInNumber domain then ipv4? domain else some (String.ofList domain)
  | none => none

/-- The host as it is written; a `special` scheme asks for a domain or an address. -/
def parse? (special : Bool) : List Char → Option String
  | '[' :: r => bracketed? r
  | s =>
    if special then domain? s
    else if s.any isForbidden then none
    else some (String.ofList (Percent.encode Percent.isControl s))

end StyleTree.Host
