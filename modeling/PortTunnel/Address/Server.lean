/-!
# Addresses of servers

A server is addressed by a scheme, an authority and a path; where there is no
scheme, the authority or the path stands alone.  This tells whether a text is of
that form, and not whether there is such a server.
-/

namespace PortTunnel.Server

/-- The characters of an authority. -/
def isAuthorityCharacter (character : Char) : Bool :=
  character.isAlphanum || "!$&'()*+,-.:;=@[]_~".toList.contains character

/-- The characters of a path and what follows it. -/
def isPathCharacter (character : Char) : Bool :=
  let code := character.toNat
  (0x21 ≤ code && code ≤ 0x7e && !"<>`".toList.contains character) || 0x80 ≤ code

/-- The characters of a scheme. -/
def isSchemeCharacter (character : Char) : Bool :=
  character.isAlphanum || "+-.".toList.contains character

/-- Whether a character ends an authority. -/
def endsAuthority (character : Char) : Bool :=
  character == '/' || character == '?' || character == '#'

/-- What follows the scheme, if there is a scheme. -/
def schemeRest? (characters : List Char) : Option (List Char) :=
  match characters.span isSchemeCharacter with
  | (scheme, ':' :: '/' :: '/' :: rest) => if scheme.length ≤ 64 then some rest else none
  | _ => none

/-- Whether a name has brackets only around all of it. -/
def isBracketed : List Char → Bool
  | '[' :: rest =>
      match rest.span fun character => character != '[' && character != ']' with
      | (_, [']']) => true
      | _ => false
  | _ => false

/-- Whether this is a name of a host, perhaps with a port. -/
def isHost (characters : List Char) : Bool :=
  let (name, port) := characters.span (· != ']')
  match port with
  | [] => !name.contains '[' && name.count ':' ≤ 1
  | bracket :: rest =>
      isBracketed (name ++ [bracket]) && !rest.contains '[' && !rest.contains ']'
        && rest.count ':' ≤ 1

/-- Whether this is an authority: a host, perhaps behind the name of a user. -/
def isAuthority (characters : List Char) : Bool :=
  let host := (characters.reverse.takeWhile (· != '@')).reverse
  characters.all isAuthorityCharacter && isHost host
    && (characters.isEmpty || !host.isEmpty)

/-- Whether a text addresses a server. -/
def isAddress (text : String) : Bool :=
  match text.toList with
  | [] => false
  | ['*'] => true
  | '/' :: rest => rest.all isPathCharacter
  | characters =>
      match schemeRest? characters with
      | none => isAuthority characters
      | some rest =>
          let authority := rest.takeWhile fun character => !endsAuthority character
          let path := rest.dropWhile fun character => !endsAuthority character
          !authority.isEmpty && isAuthority authority && path.all isPathCharacter

example : isAddress "https://127.0.0.1:6443/k" = true := by decide +kernel

example : isAddress "https://[::1]:6443" = true := by decide +kernel

example : isAddress "::bad url::" = false := by decide +kernel

end PortTunnel.Server
