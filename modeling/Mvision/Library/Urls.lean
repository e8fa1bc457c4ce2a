import Mathlib.Data.List.Infix
import Mathlib.Tactic.Common

/-!
# `urllib.parse.urlsplit`

The scheme and the network location of a text, and the host and the port in it.  What the
standard library decides by tables of its own, the literal of an IPv6 address and the Unicode
normalization of a location, is a parameter.
-/

namespace Mvision.Library

/-- `str.lower` as far as it concerns ASCII letters: no other character has one as its lower
case but the Kelvin sign. -/
def lowerAscii (text : List Char) : List Char := text.map Char.toLower

/-- `text.partition(separator)` without the separator: what follows it is absent without one. -/
def partition (separator : Char) (text : List Char) : List Char × Option (List Char) :=
  (text.takeWhile (· ≠ separator), (text.dropWhile (· ≠ separator)).tail?)

/-- `text.rpartition(separator)[2]` -/
def afterLast (separator : Char) (text : List Char) : List Char :=
  (text.reverse.takeWhile (· ≠ separator)).reverse

namespace Url

/-- The characters that `lstrip` removes: C0 controls and the space. -/
def leading (c : Char) : Bool := c.toNat ≤ 32

def unsafeToRemove (c : Char) : Bool := c == '\t' || c == '\r' || c == '\n'

def asciiLetter (c : Char) : Bool :=
  ('a' ≤ c && c ≤ 'z') || ('A' ≤ c && c ≤ 'Z')

def asciiDigit (c : Char) : Bool := '0' ≤ c && c ≤ '9'

def schemeChar (c : Char) : Bool :=
  asciiLetter c || asciiDigit c || c == '+' || c == '-' || c == '.'

/-- What the tables of the standard library accept. -/
structure Tables where
  bracketedHost : List Char → Bool
  normalNetloc : List Char → Bool
  normal_of_ascii : ∀ netloc, (∀ c ∈ netloc, c.toNat < 128) → normalNetloc netloc = true

/-- The tables as far as they concern locations in ASCII. -/
def asciiTables : Tables where
  bracketedHost := fun _ => false
  normalNetloc := fun netloc => netloc.all fun c => c.toNat < 128
  normal_of_ascii := fun _ h => List.all_eq_true.mpr fun c hc => decide_eq_true (h c hc)

structure Split where
  scheme : List Char
  netloc : List Char
deriving DecidableEq, Repr

def cleaned (url : List Char) : List Char :=
  (url.dropWhile leading).filter fun c => !unsafeToRemove c

/-- The scheme in front of the first colon, and the rest. -/
def splitScheme (url : List Char) : List Char × List Char :=
  match partition ':' url with
  | (front, some rest) =>
      if front.head?.any asciiLetter && front.all schemeChar then (lowerAscii front, rest)
      else ([], url)
  | (_, none) => ([], url)

def delimiter (c : Char) : Bool := c == '/' || c == '?' || c == '#'

/-- The location after two slashes. -/
def splitNetloc : List Char → List Char
  | '/' :: '/' :: rest => rest.takeWhile fun c => !delimiter c
  | _ => []

/-- The brackets of a location come in pairs, and what is in them is a host. -/
def bracketsValid (tables : Tables) (netloc : List Char) : Bool :=
  if '[' ∈ netloc ∧ ']' ∈ netloc then
    tables.bracketedHost (partition ']' ((partition '[' netloc).2.getD [])).1
  else decide ('[' ∉ netloc ∧ ']' ∉ netloc)

/-- `urlsplit`, or its `ValueError`. -/
def split (tables : Tables) (url : List Char) : Option Split :=
  let (scheme, rest) := splitScheme (cleaned url)
  let netloc := splitNetloc rest
  if bracketsValid tables netloc && tables.normalNetloc netloc then some ⟨scheme, netloc⟩
  else none

/-- `_hostinfo` -/
def hostInfo (netloc : List Char) : List Char × List Char :=
  let info := afterLast '@' netloc
  match partition '[' info with
  | (_, some bracketed) =>
      let (host, after) := partition ']' bracketed
      (host, (partition ':' (after.getD [])).2.getD [])
  | (_, none) =>
      let (host, port) := partition ':' info
      (host, port.getD [])

def digitsValue (digits : List Char) : Nat :=
  digits.foldl (fun n c => n * 10 + (c.toNat - '0'.toNat)) 0

/-- `port` does not raise. -/
def portValid (port : List Char) : Bool :=
  port.isEmpty || (port.all asciiDigit && decide (digitsValue port ≤ 65535))

/-- A URL with a host, an allowed scheme and a port that can be read. -/
def valid (tables : Tables) (schemes : List (List Char)) (url : List Char) : Bool :=
  match split tables url with
  | none => false
  | some parts =>
      let (host, port) := hostInfo parts.netloc
      portValid port && schemes.contains parts.scheme && !host.isEmpty

end Url

end Mvision.Library
