import NullLint.Url.Address
import NullLint.Url.Domain.Basic

set_option autoImplicit false
set_option relaxedAutoImplicit false

/-!
# Hosts

A host is a domain name or an address. A domain name whose last label is a number is an address,
too.

## Main definitions

* `Url.Host` — hosts; `Url.Host.text` — a host as it is written.
* `Url.HostFault` — what is wrong with a host.
* `Url.parseHost`, `Url.parseOpaqueHost` — the host of a URL with a known scheme, and of any other.
-/

namespace NullLint.Url

/-- A host. -/
inductive Host where
  | domain (name : String)
  | short (address : Nat)
  | long (groups : List Nat)
  deriving DecidableEq, Repr

/-- A host as it is written. -/
def Host.text : Host → String
  | .domain name => name
  | .short address => shortText address
  | .long groups => "[" ++ longText groups ++ "]"

/-- What is wrong with a host. -/
inductive HostFault where
  | empty
  | badDomain
  | badShort
  | badLong
  | badCharacter
  deriving DecidableEq, Repr

/-- The address in square brackets. -/
def bracketed (cs : List Char) : Except HostFault Host :=
  if cs.getLast? == some ']' then
    match parseLong cs.dropLast with
    | some groups => .ok (.long groups)
    | none => .error .badLong
  else .error .badLong

/-- The text that bytes stand for. -/
def charsOf? (bytes : List UInt8) : Option (List Char) :=
  (String.fromUTF8? ⟨bytes.toArray⟩).map String.toList

/-- The host of a URL with a known scheme: an address, or a name that is no address. -/
def parseHost : List Char → Except HostFault Host
  | '[' :: cs => bracketed cs
  | cs =>
    match (charsOf? (decode cs)).bind Domain.ascii? with
    | none => .error .badDomain
    | some [] => .error .empty
    | some name =>
      if endsInNumber name then
        match parseShort name with
        | some n => .ok (.short n)
        | none => .error .badShort
      else .ok (.domain (String.ofList name))

/-- The host of a URL with any other scheme, which is not looked into unless it is in brackets. -/
def parseOpaqueHost : List Char → Except HostFault Host
  | '[' :: cs => bracketed cs
  | cs =>
    if cs.any isForbidden then .error .badCharacter
    else .ok (.domain (String.ofList (encode controlSet cs)))

end NullLint.Url
