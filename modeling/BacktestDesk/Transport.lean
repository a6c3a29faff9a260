import BacktestDesk.Backend.Connection
import Std.Async.DNS
import Std.Async.TCP
import Std.Async.Timer

/-!
# BacktestDesk.Transport

Carries one request to the backend over plain connections. What arrives is collected until the
connection is closed or the time is up, and redirects are followed.
-/

namespace BacktestDesk
namespace Transport

open Std.Async

/-- The text of a request; the connection is closed after the response. -/
def requestText (u : Url) (accept : String) : String :=
  "GET " ++ u.target ++ " HTTP/1.1\r\nHost: " ++ u.hostAndPort ++ "\r\nAccept: " ++ accept ++
    "\r\nConnection: close\r\n\r\n"

/-- Host and port of an address; the host is not written in brackets. -/
def endpoint (u : Url) : String × String :=
  match u.authority with
  | some a =>
    (String.ofList (a.host.text.filter fun c => c != '[' && c != ']'), toString (a.port.getD 80))
  | none => ("", "80")

def socketAddress (port : UInt16) : Std.Net.IPAddr → Std.Net.SocketAddress
  | .v4 addr => .v4 ⟨addr, port⟩
  | .v6 addr => .v6 ⟨addr, port⟩

/-- The first of the addresses that takes a connection. -/
def connectFirst (port : UInt16) : List Std.Net.IPAddr → Async (Option TCP.Socket.Client)
  | [] => return none
  | addr :: rest => do
    let socket ← TCP.Socket.Client.mk
    try
      socket.connect (socketAddress port addr)
      return some socket
    catch _ => connectFirst port rest

def connect (u : Url) : Async (Option TCP.Socket.Client) := do
  let (host, port) := endpoint u
  try
    let addresses ← DNS.getAddrInfo host port
    connectFirst (UInt16.ofNat (Numeral.ofDigits port.toList)) addresses.toList
  catch _ => return none

/-- The next bytes, the end of the connection, or `none` when the time is up. -/
def receive (socket : TCP.Socket.Client) (deadline : Nat) : Async (Option (Option ByteArray)) := do
  let now ← IO.monoMsNow
  let timer ← Selector.sleep (Std.Time.Millisecond.Offset.ofNat (deadline - now))
  Selectable.one
    #[.case (socket.recvSelector 65536) fun bytes => return some bytes,
      .case timer fun () => return none]

partial def collect (socket : TCP.Socket.Client) (deadline : Nat) (done : ByteArray) :
    Async Connection.Delivery := do
  match ← receive socket deadline with
  | none => return ⟨.silent, none⟩
  | some none => return Connection.delivery done.toList
  | some (some bytes) => collect socket deadline (done ++ bytes)

def exchange (u : Url) (accept : String) (deadline : Nat) : Async Connection.Delivery := do
  match ← connect u with
  | none => return ⟨.refused, none⟩
  | some socket =>
    try
      socket.send (requestText u accept).toUTF8
      collect socket deadline ByteArray.empty
    catch _ => return ⟨.dropped, none⟩

/-- What arrives from an address. Only plain connections are made. -/
def visit (u : Url) (accept : String) (deadline : Nat) : IO Connection.Delivery :=
  if u.scheme == "http".toList then (exchange u accept deadline).block
  else return ⟨.refused, none⟩

/-- Follows redirects from an address, in at most so many visits. -/
def follow (accept : String) (deadline : Nat) : Nat → Url → IO Reply
  | 0, _ => return .direct .dropped
  | visits + 1, u => do
    let delivery ← visit u accept deadline
    match delivery.location.bind (Connection.destination? u) with
    | none => return .direct delivery.arrival
    | some v =>
      let reply ← follow accept deadline visits v
      return ⟨v :: reply.redirects, reply.arrival⟩

/-- The reply to a request. -/
def fetch (r : Sent) (timeoutMs : Nat) : IO Reply := do
  let deadline := (← IO.monoMsNow) + timeoutMs
  follow r.accept deadline (maxRedirects + 1) r.url

end Transport
end BacktestDesk
