/-
Hosts: a name, an IPv4 address or an IPv6 address.

`Host.parse` reads a host as a browser reads the host of a web address.  Brackets hold an
IPv6 address.  Anything else has its percent escapes decoded and is taken to its ASCII form;
if the last label of that is a number, the whole is an IPv4 address.  `Host.toText` prints a
host in its one canonical form.
-/
import ResultPages.Host.Ipv6
import ResultPages.Host.Name
import ResultPages.Text.Percent

namespace ResultPages

/-- A host. -/
inductive Host where
  | name (ascii : List Char)
  | ipv4 (address : Ipv4)
  | ipv6 (address : Ipv6)
deriving DecidableEq, Repr

/-- Why a text is no host with an optional port. -/
inductive HostError where
  | emptyHost
  | invalidName
  | invalidIpv4
  | invalidIpv6
  | invalidPort
deriving DecidableEq, Repr

/-- The wording of an error. -/
def HostError.message : HostError → String
  | emptyHost => "empty host"
  | invalidName => "invalid international domain name"
  | invalidIpv4 => "invalid IPv4 address"
  | invalidIpv6 => "invalid IPv6 address"
  | invalidPort => "invalid port number"

namespace Host

/-- The host that ASCII text stands for. -/
def ofAscii (cs : List Char) : Except HostError Host :=
  if cs = [] then .error .emptyHost
  else if Ipv4.isNumeric cs then
    match Ipv4.ofText? cs with
    | some x => .ok (.ipv4 x)
    | none => .error .invalidIpv4
  else .ok (.name cs)

/-- The host that a text without brackets stands for. -/
def ofUnbracketed (cs : List Char) : Except HostError Host :=
  match (Utf8.decode? (Percent.decode (Utf8.encode cs))).bind Name.toAscii? with
  | some ascii => ofAscii ascii
  | none => .error .invalidName

/-- The host that a text in brackets stands for, given what follows the first bracket. -/
def ofBracketed (cs : List Char) : Except HostError Host :=
  if cs.getLast? = some ']' then
    match Ipv6.ofText? cs.dropLast with
    | some x => .ok (.ipv6 x)
    | none => .error .invalidIpv6
  else .error .invalidIpv6

/-- The host that a text stands for. -/
def parse : List Char → Except HostError Host
  | [] => .error .emptyHost
  | '[' :: cs => ofBracketed cs
  | cs => ofUnbracketed cs

/-- The canonical text of a host. -/
def toText : Host → List Char
  | name ascii => ascii
  | ipv4 x => x.toText
  | ipv6 x => '[' :: (x.toText ++ [']'])

end Host

end ResultPages
