import TypedSql.Error
import TypedSql.Text.Blank
import TypedSql.Text.Hex
import TypedSql.Text.Numeral

/-!
Addresses of PostgreSQL databases, as far as they can be told to be well formed: either a URL with
credentials, hosts, a database and options, or options alone as words with values.
-/

namespace TypedSql.Postgres

open Text

/-! ### Options -/

/-- Whether a text is a whole number, with a sign or none, between the given limits. -/
def isInteger (least greatest : Int) (value : String) : Bool :=
  let number? := match value.toList with
    | '-' :: cs => (readDigits? cs).map fun n => -(n : Int)
    | '+' :: cs => (readDigits? cs).map fun n => (n : Int)
    | cs => (readDigits? cs).map fun n => (n : Int)
  match number? with
  | some i => least ≤ i && i ≤ greatest
  | none => false

def isInt64 (value : String) : Bool :=
  isInteger (-9223372036854775808) 9223372036854775807 value

/-- Whether a text is a number without a minus sign below the given power of two. -/
def isUnsigned (bits : Nat) (value : String) : Bool :=
  !value.startsWith "-" && isInteger 0 (Nat.pow 2 bits - 1 : Nat) value

/-- Whether a text is a byte of a network address: a number below 256 without leading zeros. -/
def isAddressByte (cs : List Char) : Bool :=
  match readDigits? cs with
  | some n => n < 256 && (digits n).length == cs.length
  | none => false

/-- Whether a text is a network address of four bytes. -/
def isAddressV4 (value : String) : Bool :=
  let parts := value.splitOn "."
  parts.length == 4 && parts.all (isAddressByte ·.toList)

/-- The number of groups in a part of a network address of eight groups, where four bytes at the
end count as two. -/
def groupCount? (cs : String) : Option Nat :=
  if cs.isEmpty then some 0
  else
    let parts := cs.splitOn ":"
    let isGroup := fun s : String =>
      1 ≤ s.length && s.length ≤ 4 && (readHex? s.toList).isSome
    let front := parts.dropLast
    match parts.getLast? with
    | none => none
    | some last =>
      if !front.all isGroup then none
      else if isGroup last then some parts.length
      else if isAddressV4 last then some (parts.length + 1)
      else none

/-- Whether a text is a network address of eight groups, some of which two colons may stand for. -/
def isAddressV6 (value : String) : Bool :=
  match value.splitOn "::" with
  | [whole] => groupCount? whole == some 8
  | [front, back] =>
    !front.toList.contains '.' &&
      match groupCount? front, groupCount? back with
      | some m, some n => m + n ≤ 7
      | _, _ => false
  | _ => false

/-- Whether an option takes the given value. Unknown options take none. -/
def optionAccepts (key value : String) : Bool :=
  match key with
  | "user" | "password" | "dbname" | "options" | "application_name" | "host" => true
  | "sslmode" => value ∈ ["disable", "prefer", "require"]
  | "sslnegotiation" => value ∈ ["postgres", "direct"]
  | "hostaddr" => (value.splitOn ",").all fun a => isAddressV4 a || isAddressV6 a
  | "port" => (value.splitOn ",").all fun p => p.isEmpty || isUnsigned 16 p
  | "connect_timeout" | "tcp_user_timeout" | "keepalives_idle" | "keepalives_interval" =>
    isInt64 value
  | "keepalives" => isUnsigned 64 value
  | "keepalives_retries" => isUnsigned 32 value
  | "target_session_attrs" => value ∈ ["any", "read-write", "read-only"]
  | "channel_binding" => value ∈ ["disable", "prefer", "require"]
  | "load_balance_hosts" => value ∈ ["disable", "random"]
  | _ => false

/-! ### Words with values -/

/-- The value of an option and what follows it: between quotes, or up to white space. A backslash
stands before a character that is meant as it is. -/
def wordValue (quoted : Bool) : List Char → Option (List Char × List Char)
  | [] => if quoted then none else some ([], [])
  | '\\' :: c :: cs => (wordValue quoted cs).map fun (v, rest) => (c :: v, rest)
  | ['\\'] => if quoted then none else some ([], [])
  | c :: cs =>
    if quoted && c == '\'' then some ([], cs)
    else if !quoted && isBlankChar c then some ([], c :: cs)
    else (wordValue quoted cs).map fun (v, rest) => (c :: v, rest)

/-- Whether a text is a list of options. Each takes two characters at least, so as many steps as
there are characters are enough. A text that goes on without a word is not looked at further. -/
def optionsWithin : Nat → List Char → Bool
  | 0, cs => cs.all isBlankChar
  | steps + 1, cs =>
    let cs := trimLeft cs
    let stops := fun c => isBlankChar c || c == '='
    let key := cs.takeWhile (!stops ·)
    if key.isEmpty then true
    else
      match trimLeft (cs.dropWhile (!stops ·)) with
      | '=' :: cs =>
        let cs := trimLeft cs
        let value? := match cs with
          | '\'' :: cs => wordValue true cs
          | cs => (wordValue false cs).bind fun (v, rest) =>
            if v.isEmpty then none else some (v, rest)
        match value? with
        | some (v, rest) =>
          optionAccepts (String.ofList key) (String.ofList v) && optionsWithin steps rest
        | none => false
      | _ => false

def isOptions (cs : List Char) : Bool :=
  optionsWithin (cs.length + 1) cs

/-! ### URLs -/

/-- The bytes of a text in which a percent sign and two hexadecimal digits stand for a byte. -/
def percentDecoded : List Char → List UInt8
  | '%' :: a :: b :: cs =>
    match hexValue? a, hexValue? b with
    | some m, some n => UInt8.ofNat (16 * m + n) :: percentDecoded cs
    | _, _ => UInt8.ofNat 0x25 :: percentDecoded (a :: b :: cs)
  | c :: cs => c.toString.toUTF8.toList ++ percentDecoded cs
  | [] => []
termination_by cs => cs.length

/-- The decoded text, if it is one. -/
def decoded? (cs : List Char) : Option String :=
  String.fromUTF8? ⟨(percentDecoded cs).toArray⟩

/-- Whether a host can be one: the path of a socket, or a text. -/
def isHost (cs : List Char) : Bool :=
  (percentDecoded cs).head? == some 0x2f || (decoded? cs).isSome

def isHostWithPort (cs : List Char) : Bool :=
  let split? : Option (List Char × Option (List Char)) := match cs with
    | '[' :: cs =>
      match cs.dropWhile (· != ']') with
      | [] => none
      | _ :: [] => some (cs.takeWhile (· != ']'), none)
      | _ :: ':' :: port => some (cs.takeWhile (· != ']'), some port)
      | _ => none
    | cs =>
      match cs.dropWhile (· != ':') with
      | [] => some (cs, none)
      | _ :: port => some (cs.takeWhile (· != ':'), some port)
  match split? with
  | none => false
  | some (host, port) =>
    isHost host && match port with
      | none => true
      | some port => (decoded? port).any (optionAccepts "port")

/-- Whether a text is the list of options at the end of a URL. Each takes a character at least, so
as many steps as there are characters are enough. -/
def parametersWithin : Nat → List Char → Bool
  | 0, cs => cs.isEmpty
  | steps + 1, cs =>
    if cs.isEmpty then true
    else
      match decoded? (cs.takeWhile (· != '=')), cs.dropWhile (· != '=') with
      | some key, _ :: rest =>
        let value := rest.takeWhile (· != '&')
        let accepted :=
          if key = "host" then isHost value else (decoded? value).any (optionAccepts key)
        accepted && parametersWithin steps ((rest.dropWhile (· != '&')).drop 1)
      | _, _ => false

/-- Whether what stands behind the scheme of a URL is well formed. -/
def isUrlBody (cs : List Char) : Bool :=
  let credentials := cs.takeWhile (· != '@')
  let hasCredentials := cs.contains '@'
  let userIsText := !hasCredentials || (decoded? (credentials.takeWhile (· != ':'))).isSome
  let cs := if hasCredentials then cs.drop (credentials.length + 1) else cs
  let ends := fun c => c == '/' || c == '?'
  let hosts := cs.takeWhile (!ends ·)
  let hostsAreHosts :=
    hosts.isEmpty || ((String.ofList hosts).splitOn ",").all (isHostWithPort ·.toList)
  let cs := cs.dropWhile (!ends ·)
  let path := cs.takeWhile (· != '?')
  let nameIsText := (decoded? (path.drop 1)).isSome
  let parameters := (cs.dropWhile (· != '?')).drop 1
  userIsText && hostsAreHosts && nameIsText && parametersWithin (parameters.length + 1) parameters

def isAddress (address : String) : Bool :=
  let cs := address.toList
  match ["postgres://", "postgresql://"].find? (address.startsWith ·) with
  | some scheme => isUrlBody (cs.drop scheme.length)
  | none => isOptions cs

/-! ### Pools -/

structure Pool where
  address : String
  maxSize : Nat := 16
  deriving DecidableEq, Repr

/-- A pool for the database of the given address. -/
def Pool.create (address : String) (maxSize : Nat := 16) : SqlResult Pool :=
  if isAddress address then .ok { address, maxSize }
  else .error (.connection "invalid connection string")

end TypedSql.Postgres
