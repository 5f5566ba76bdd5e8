import NodeAdmission.Http.Message
import NodeAdmission.Text.Blank
import NodeAdmission.Text.Pieces

/-!
# Proxies

Requests go through a proxy if variables name one: `HTTP_PROXY` for plain URLs, `HTTPS_PROXY` for
secure ones, and `ALL_PROXY` in place of one that names none, each also in lower case. The hosts of
`NO_PROXY` are reached directly:

* addresses, and networks of addresses with the number of the bits that count;
* names, which stand for all names below them, with a dot in front or without;
* `*`, which stands for every name.

`Proxies.ofVariables` reads the variables, `Proxies.choose?` finds the proxy for a URL and
`Proxies.route` sends every request by it.
-/

namespace NodeAdmission.Http

/-! ### Networks -/

/-- The addresses of one kind that agree in their first bits. -/
structure Network where
  /-- How many bits an address of that kind has. -/
  width : Nat
  address : Nat
  /-- How many bits count. -/
  bits : Nat
deriving DecidableEq, Repr

namespace Network

def ofHost? : Host → Option Network
  | .domain _ => none
  | .ipv4 a => some ⟨32, a, 32⟩
  | .ipv6 groups => some ⟨128, groups.foldl (fun n g => n * 65536 + g) 0, 128⟩

def address? (cs : List Char) : Option Network :=
  match (Text.pieces '.' cs).mapM Host.decimalByte? with
  | some [a, b, c, d] => some ⟨32, ((a * 256 + b) * 256 + c) * 256 + d, 32⟩
  | _ => (Host.ipv6? cs).bind fun groups => ofHost? (.ipv6 groups)

/-- Reads an address, perhaps with the number of its bits that count. -/
def read? (cs : List Char) : Option Network :=
  match Text.pieces '/' cs with
  | [address] => address? address
  | [address, bits] => do
    let whole ← address? address
    let n ← if bits.isEmpty || bits.length > 3 then none else Host.digitsIn 10 bits
    if n ≤ whole.width && bits.length ≤ (toString whole.width).length then
      some { whole with bits := n }
    else none
  | _ => none

def contains (n : Network) (address : Network) : Bool :=
  n.width = address.width &&
    n.address / Nat.pow 2 (n.width - n.bits) = address.address / Nat.pow 2 (n.width - n.bits)

end Network

/-! ### Exemptions -/

/-- Hosts that are reached without a proxy. -/
inductive Exemption where
  | network (addresses : Network)
  | name (above : List Char)
deriving DecidableEq, Repr

namespace Exemption

def read (cs : List Char) : Exemption := ((Network.read? cs).map .network).getD (.name cs)

/-- Whether a name is another one or below it; a star stands for all. -/
def covers (above name : List Char) : Bool :=
  let bare := match above with | '.' :: cs => cs | cs => cs
  above = ['*'] || name = bare || ('.' :: bare).isSuffixOf name

def applies (e : Exemption) (host : Host) : Bool :=
  match e, host, Network.ofHost? host with
  | .network n, _, some address => n.contains address
  | .name above, .domain host, _ => covers (above.map Char.toLower) (host.toList.map Char.toLower)
  | _, _, _ => false

end Exemption

/-! ### Addresses -/

/-- The address of a proxy without its scheme and path. -/
def authority? (secure : Bool) (cs : List Char) : Option Url := do
  if cs.isEmpty || cs.any fun c => !(c.isAlphanum || "!$&'()*+,-.:;=@[]_~%".toList.contains c) then
    none
  let (hostText, portText) := Url.splitPort (Url.afterCredentials cs)
  let host ← Host.read? hostText
  let port := (Url.port? secure portText).toOption.join
  return { secure, host, port, path := "/", query := none, fragment := none }

/-- Reads the address of a proxy. Credentials and a path do not count, and without a scheme it is a
plain one, and the address is all there is. -/
def proxy? (s : String) : Option Url :=
  let cs := s.toList
  let isEnd (c : Char) : Bool := c = '/' || c = '?' || c = '#'
  match Url.scheme? cs with
  | some (scheme, '/' :: '/' :: rest) =>
    if ["http", "https", "socks4", "socks4a", "socks5", "socks5h"].contains scheme &&
        rest.all (fun c => '!' ≤ c && !"<>\x60".toList.contains c) then
      authority? (scheme = "https") (rest.takeWhile (!isEnd ·))
    else none
  -- Without a scheme the whole text is the address.
  | _ => authority? false cs

/-! ### Choosing a proxy -/

/-- The proxies that requests go through. -/
structure Proxies where
  /-- The one for plain URLs. -/
  plain : Option Url := none
  /-- The one for secure URLs. -/
  secure : Option Url := none
  exemptions : List Exemption := []

namespace Proxies

def firstSet (lookup : String → Option String) (names : List String) : String :=
  (names.findSome? lookup).getD ""

/-- The proxies that variables name. There is none where requests of others are served, as the
variable `REQUEST_METHOD` tells: those might set the variables. -/
def ofVariables (lookup : String → Option String) : Proxies :=
  if (lookup "REQUEST_METHOD").isSome then {}
  else
    let proxy (names : List String) : Option Url := proxy? (firstSet lookup names)
    let every := proxy ["ALL_PROXY", "all_proxy"]
    let items := Text.pieces ',' (firstSet lookup ["NO_PROXY", "no_proxy"]).toList
    { plain := (proxy ["HTTP_PROXY", "http_proxy"]).or every
      secure := (proxy ["HTTPS_PROXY", "https_proxy"]).or every
      -- Empty items do not count.
      exemptions := ((items.map Text.trimChars).filter (· ≠ [])).map .read }

def choose? (p : Proxies) (url : Url) : Option Url :=
  if p.exemptions.any (·.applies url.host) then none else if url.secure then p.secure else p.plain

def route (p : Proxies) (exchange : Exchange m) : Exchange m := fun request =>
  exchange { request with via := p.choose? request.url }

end Proxies
end NodeAdmission.Http
