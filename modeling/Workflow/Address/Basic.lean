import Workflow.Text.Quoted

/-!
Web addresses by their parts, and why a text is none.
-/

namespace Workflow

structure Address where
  scheme : String
  user : String
  host : String
  port : Option Int
  path : String
  query : Option String
  fragment : Option String
deriving DecidableEq, Repr

namespace Address

inductive Fault where
  | tooLong
  | longPart (name : String)
  | unprintable (c : Char) (position : Nat)
  | badDecimalHost (host : String)
  | badHexadecimalHost (host : String)
  | badHostName (host : String)
  | badPort (port : String)
  | doubleSlash
  | colon
deriving DecidableEq, Repr

def Fault.message : Fault → String
  | .tooLong => "URL too long"
  | .longPart name => s!"URL component '{name}' too long"
  | .unprintable c position =>
    s!"Invalid non-printable ASCII character in URL, {Text.quoted c.toString} " ++
      s!"at position {position}."
  | .badDecimalHost host => s!"Invalid IPv4 address: {Text.quoted host}"
  | .badHexadecimalHost host => s!"Invalid IPv6 address: {Text.quoted host}"
  | .badHostName host => s!"Invalid IDNA hostname: {Text.quoted host}"
  | .badPort port => s!"Invalid port: {Text.quoted port}"
  | .doubleSlash => "Relative URLs cannot have a path starting with '//'"
  | .colon => "Relative URLs cannot have a path starting with ':'"

def hostText (a : Address) : String :=
  if a.host.toList.contains ':' then s!"[{a.host}]" else a.host

def hasAuthority (a : Address) : Bool := !a.user.isEmpty || !a.host.isEmpty || a.port.isSome

def authorityText (a : Address) : String :=
  (if a.user.isEmpty then "" else a.user ++ "@") ++ a.hostText ++
    a.port.elim "" fun port => s!":{port}"

def requestText (path : String) (query : Option String) : String :=
  path ++ query.elim "" ("?" ++ ·)

def text (a : Address) : String :=
  (if a.scheme.isEmpty then "" else a.scheme ++ ":") ++
    (if a.hasAuthority then "//" ++ a.authorityText else "") ++
    requestText a.path a.query ++ a.fragment.elim "" ("#" ++ ·)

def isComplete (a : Address) : Bool := !a.scheme.isEmpty && !a.host.isEmpty

def longest : Nat := 65536

def target (a : Address) : Except Fault String :=
  if a.isComplete then .ok a.text
  else
    let path := "/" ++ String.ofList (a.path.toList.dropWhile (· == '/'))
    if longest < path.length then .error (.longPart "path")
    else if a.query.any fun q => longest < q.length then .error (.longPart "query")
    else .ok (requestText path a.query)

end Address

end Workflow
