/-
# PartitionedRollout.Health.Message -- health requests and their answers on the wire

A request is sent as its line, its headers and an empty line. Of the answer only the first line
is looked at: it names a version of HTTP and then a status code of exactly three digits, of
which the first is not zero.
-/

import PartitionedRollout.Health.Endpoint
import PartitionedRollout.Text.Decimal

namespace PartitionedRollout

open Text

namespace HttpRequest

/-- The text that is sent. -/
def message (r : HttpRequest) : String :=
  String.join ((r.line :: r.headers).map fun l => l ++ "\r\n") ++ "\r\n"

/-- The host and the port to connect to. The port stands behind the last colon. -/
def endpoint? (r : HttpRequest) : Option (String × UInt16) :=
  let backwards := r.address.toList.reverse
  match backwards.dropWhile (· != ':') with
  | [] => none
  | _ :: host =>
    (Decimal.count? UInt16.size (backwards.takeWhile (· != ':')).reverse).map fun port =>
      (String.ofList host.reverse, UInt16.ofNat port)

end HttpRequest

/-- The status code of three digits. -/
def statusCode? (digits : List Char) : Option UInt16 :=
  ((Decimal.value? digits).filter (100 ≤ ·)).map UInt16.ofNat

/-- The status code in the first line of an answer. Words may follow it behind a space. -/
def statusOfLine? : List Char → Option UInt16
  | 'H' :: 'T' :: 'T' :: 'P' :: '/' :: '1' :: '.' :: minor :: ' ' :: a :: b :: c :: rest =>
    if (minor == '0' || minor == '1') && (rest.isEmpty || rest.head? == some ' ') then
      statusCode? [a, b, c]
    else none
  | _ => none

/-- The status code of an answer as far as it has arrived. A line ends with a line feed, in
front of which a carriage return may stand. -/
def statusOfAnswer? (received : List Char) : Option UInt16 :=
  if received.contains '\n' then
    let line := received.takeWhile (· != '\n')
    statusOfLine? (if line.getLast? = some '\r' then line.dropLast else line)
  else none

end PartitionedRollout
