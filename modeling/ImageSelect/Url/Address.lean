import ImageSelect.Text.Split
import ImageSelect.Url.Percent

/-!
# Numeric addresses

A bracketed host is an IPv6 address or an address of a later version.  An
IPv6 address has eight groups of up to four hexadecimal digits, of which one
run may be left out as `::`; the last two groups may be written as an IPv4
address, and a zone may follow a percent sign.
-/

namespace ImageSelect.Url

open ImageSelect.Text

/-- One number of an IPv4 address: up to three digits, no leading zero, at
most 255. -/
def isOctet (digits : List Char) : Bool :=
  !digits.isEmpty && digits.all Char.isDigit && digits.length ≤ 3 &&
    (digits = ['0'] || digits.head? ≠ some '0') &&
    digits.foldl (fun n c => n * 10 + (c.toNat - 0x30)) 0 ≤ 255

/-- Whether a text is an IPv4 address. -/
def isIPv4 (host : List Char) : Bool :=
  let octets := pieces '.' host
  octets.length = 4 && octets.all isOctet

/-- One group of an IPv6 address. -/
def isGroup (digits : List Char) : Bool :=
  !digits.isEmpty && digits.all isHexDigit && digits.length ≤ 4

/-- The groups of an IPv6 address with a written-out IPv4 ending replaced by
two groups; nothing if that ending is no address. -/
def expandEnding (groups : List (List Char)) : Option (List (List Char)) :=
  match groups.reverse with
  | [] => some []
  | ending :: others =>
    if ending.contains '.' then
      if isIPv4 ending then some (others.reverse ++ [['0'], ['0']]) else none
    else some groups

/-- Whether groups before and after `::` make an address.  An empty group
may stand only at the outer end, right beside the `::`. -/
def fitsAround (before after : List (List Char)) : Bool :=
  let high := if before.head? = some [] then before.drop 1 else before
  let low := if after.getLast? = some [] then after.dropLast else after
  (before.head? ≠ some [] || high.isEmpty) && (after.getLast? ≠ some [] || low.isEmpty) &&
    high.length + low.length < 8 && high.all isGroup && low.all isGroup

/-- Whether groups that come from a text cut at every colon make an address.
A `::` shows as an empty group that is neither the first nor the last. -/
def areGroups (groups : List (List Char)) : Bool :=
  let inner := (groups.drop 1).dropLast
  if 9 < groups.length then false
  else
    match inner.idxOf? [] with
    | none => groups.length = 8 && groups.all isGroup
    | some skip =>
      !(inner.drop (skip + 1)).contains [] &&
        fitsAround (groups.take (skip + 1)) (groups.drop (skip + 2))

/-- Whether a text is an IPv6 address. -/
def isIPv6 (host : List Char) : Bool :=
  let (address, zone) := cut '%' host
  let zoneFits :=
    match zone with
    | none => true
    | some name => !name.isEmpty && !name.contains '%'
  let groups := pieces ':' address
  zoneFits && 3 ≤ groups.length &&
    (match expandEnding groups with
     | some groups => areGroups groups
     | none => false)

/-- Whether a text is an address of a later version: `v`, hexadecimal
digits, a dot and anything. -/
def isLaterVersion (host : List Char) : Bool :=
  match host with
  | 'v' :: rest =>
    let (digits, more) := (rest.takeWhile isHexDigit, rest.dropWhile isHexDigit)
    match more with
    | '.' :: _ :: _ => !digits.isEmpty
    | _ => false
  | _ => false

end ImageSelect.Url
