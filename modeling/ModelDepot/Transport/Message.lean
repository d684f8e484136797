import ModelDepot.Text.Basic
import ModelDepot.Transport.Http

/-!
# HTTP messages

Requests and answers as they go over a connection. A connection carries one request; its answer
ends where its length says, with its last chunk, or with the connection.
-/

namespace ModelDepot.Message

def request (e : Endpoint) (target : String) : List UInt8 :=
  let host := e.host.text ++ e.port.elim "" fun p => ":" ++ decimalText p
  let lines := ["GET " ++ target ++ " HTTP/1.1", "Host: " ++ host, "Connection: close", "", ""]
  ("\r\n".intercalate lines).toUTF8.toList

def splitLine : List UInt8 → Option (List UInt8 × List UInt8)
  | 13 :: 10 :: rest => some ([], rest)
  | b :: rest => (splitLine rest).map fun (line, rest) => (b :: line, rest)
  | [] => none

theorem length_lt_of_splitLine {bytes line rest : List UInt8}
    (h : splitLine bytes = some (line, rest)) : rest.length < bytes.length := by
  fun_induction splitLine bytes generalizing line with
  | case1 rest' =>
    cases h
    simp only [List.length_cons]
    omega
  | case2 b tail _ ih =>
    obtain ⟨⟨line', rest'⟩, h', he⟩ := Option.map_eq_some_iff.1 h
    cases he
    have := ih h'
    simp only [List.length_cons]
    omega
  | case3 => cases h

def lineText (line : List UInt8) : String :=
  Text.lossy line

def splitHead (bytes : List UInt8) : Option (List String × List UInt8) :=
  match _h : splitLine bytes with
  | none => none
  | some ([], rest) => some ([], rest)
  | some (line, rest) =>
    (splitHead rest).map fun (lines, rest) => (lineText line :: lines, rest)
termination_by bytes.length
decreasing_by exact length_lt_of_splitLine _h

/-- The value of a header. Its name may be in any case. -/
def header? (lines : List String) (name : String) : Option String :=
  lines.findSome? fun line =>
    let before := line.toList.takeWhile (· != ':')
    if (String.ofList before).toLower == name then
      some (Text.trim (String.ofList (line.toList.drop (before.length + 1))))
    else none

/-- The size of a chunk, from the line in front of it. -/
def chunkSize (line : List UInt8) : Option Nat :=
  let digits := (lineText line).toList.takeWhile fun c => (hexDigit? c).isSome
  if digits.isEmpty then none else ofBase 16 digits

def chunks (bytes : List UInt8) : Option (List UInt8) :=
  match _h : splitLine bytes with
  | none => none
  | some (line, rest) =>
    match chunkSize line with
    | none => none
    | some 0 => some []
    | some size =>
      if rest.length < size + 2 then none
      else (chunks (rest.drop (size + 2))).map (rest.take size ++ ·)
termination_by bytes.length
decreasing_by
  have := length_lt_of_splitLine _h
  simp only [List.length_drop]
  omega

def body (head : List String) (bytes : List UInt8) : Option (List UInt8) :=
  if (header? head "transfer-encoding").any fun s => s.toLower == "chunked" then chunks bytes
  else
    match (header? head "content-length").map String.toNat? with
    | none => some bytes
    | some none => none
    | some (some n) => if bytes.length < n then none else some (bytes.take n)

/-- The status in the first line of an answer. -/
def status? (line : String) : Option UInt16 :=
  match line.splitOn " " with
  | "HTTP/1.1" :: code :: _ => (code.toNat?.filter (· < 1000)).map UInt16.ofNat
  | _ => none

def exchange (bytes : List UInt8) : Exchange :=
  match splitHead bytes with
  | some (first :: head, rest) =>
    match status? first, body head rest with
    | some status, some body => .answered status body
    | _, _ => .broken "the answer cannot be read"
  | _ => .broken "the connection was closed"

end ModelDepot.Message
