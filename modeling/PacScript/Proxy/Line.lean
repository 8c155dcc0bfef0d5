import PacScript.Proxy.Authority
import PacScript.Text.Quoted

/-!
# Proxy lines

What a script answers: proxies in order of preference, separated by semicolons, each a type and an
address. A blank line means a direct connection, and so does no line at all.
-/

namespace PacScript

open PacScript.Text

/-- The types of connections that a line may name. -/
inductive ProxyType
  | proxy
  | http
  | https
  | socks
  | socks4
  | socks5
  | direct
  deriving DecidableEq

namespace ProxyType

def all : List ProxyType := [.proxy, .http, .https, .socks, .socks4, .socks5, .direct]

def name : ProxyType → String
  | .proxy => "PROXY"
  | .http => "HTTP"
  | .https => "HTTPS"
  | .socks => "SOCKS"
  | .socks4 => "SOCKS4"
  | .socks5 => "SOCKS5"
  | .direct => "DIRECT"

def ofName? (name : String) : Option ProxyType := all.find? fun t => t.name == name

def isHttp : ProxyType → Bool
  | .proxy | .http | .https => true
  | _ => false

def isSocks4 : ProxyType → Bool
  | .socks4 => true
  | _ => false

/-- Plain `SOCKS` means version five. -/
def isSocks5 : ProxyType → Bool
  | .socks | .socks5 => true
  | _ => false

def isSocks (t : ProxyType) : Bool := t.isSocks4 || t.isSocks5

def isDirect : ProxyType → Bool
  | .direct => true
  | _ => false

end ProxyType

/-- One entry of a proxy line. -/
structure ProxyInfo where
  type : ProxyType
  host : Option String
  port : Option Int
  deriving DecidableEq

namespace ProxyInfo

def direct : ProxyInfo := ⟨.direct, none, none⟩

/-- The text of an entry. A host with a colon is put in brackets. -/
def text (i : ProxyInfo) : String :=
  if i.type.isDirect then "DIRECT"
  else
    let host :=
      match i.host with
      | none => "None"
      | some h => if h.toList.contains ':' then "[" ++ h ++ "]" else h
    match i.port with
    | none => i.type.name ++ " " ++ host
    | some port => i.type.name ++ " " ++ host ++ ":" ++ toString port

end ProxyInfo

/-- What is wrong with an entry of a proxy line. -/
inductive ProxyFault
  | unknownType (token : String)
  | hostRequired
  | badAddress (token : String)
  deriving DecidableEq

/-- A faulty proxy line. -/
structure ProxyLineFault where
  line : String
  fault : ProxyFault
  deriving DecidableEq

def ProxyLineFault.message (f : ProxyLineFault) : String :=
  let reason :=
    match f.fault with
    | .unknownType token => "unknown type " ++ quoted token
    | .hostRequired => "proxy host required"
    | .badAddress token => "bad address " ++ quoted token
  "Invalid proxy line [" ++ f.line ++ "]: " ++ reason

namespace ProxyLine

/-- Host and port of an entry. -/
def endpoint (token : List Char) : Except ProxyFault (String × Option Int) :=
  match Authority.parse? token with
  | none => .error (.badAddress (String.ofList token))
  | some (host, port) =>
    if host.isEmpty then .error .hostRequired
    else .ok (String.ofList host, port.map fun p => (p : Int))

/-- One entry, or nothing when it is blank. Words after the address are ignored. -/
def entry (cs : List Char) : Except ProxyFault (Option ProxyInfo) :=
  match words cs with
  | [] => .ok none
  | name :: rest =>
    match ProxyType.ofName? (String.ofList (upper name)) with
    | none => .error (.unknownType (String.ofList name))
    | some type =>
      if type.isDirect then .ok (some .direct)
      else
        match rest with
        | [] => .error .hostRequired
        | address :: _ => do
          let (host, port) ← endpoint address
          .ok (some { type, host := some host, port })

/-- The entries of a line that are not blank. -/
def entries (accept : ProxyInfo → Bool) : List (List Char) → Except ProxyFault (List ProxyInfo)
  | [] => .ok []
  | cs :: rest => do
    let first ← entry cs
    let more ← entries accept rest
    match first with
    | none => .ok more
    | some info => .ok (if info.type.isDirect || accept info then info :: more else more)

/-- The usable entries of a line in order of preference. A direct connection is always usable. -/
def parse (line? : Option String) (accept : ProxyInfo → Bool) :
    Except ProxyLineFault (List ProxyInfo) :=
  match line? with
  | none => .ok [.direct]
  | some line =>
    if (trim line.toList).isEmpty then .ok [.direct]
    else (entries accept (pieces ';' line.toList)).mapError fun fault => { line, fault }

end ProxyLine

end PacScript
