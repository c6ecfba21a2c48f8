import WebTransportDemo.Source.FormatEchoPayload

/-!
# The log records of the echo demo

Every statement that prints, in `samples/web_transport_echo_visitor.cc` (the server) and in
the session and echo phases of `RunClient` (`samples/web_transport_test_client.cc`),
with the text it writes. A record is given by the lines its statement lays out; what a
payload, a response or a close reason contributes to a line is part of that line, and
`text` is what reaches the stream.
-/
namespace WebTransportDemo.Source
open Library

abbrev StreamId := Nat

/-- The text of a list of lines, each one closed by a newline. -/
def linesText (lines : List Bytes) : Bytes := lines.flatMap fun line => line ++ [newline]

/-- The records of `WebTransportEchoVisitor` and `BidirectionalEchoVisitor`, all on `std::cout`.
`payload` is the argument handed to `FormatEchoPayload`. -/
inductive ServerRecord where
  | streamReceive (streamId : StreamId) (length : Nat) (payload : Bytes)
  | streamSend (streamId : StreamId) (length : Nat) (payload : Bytes)
  | datagramReceive (length : Nat) (payload : Bytes)
  | datagramSend (length : Nat) (payload : Bytes)
  deriving DecidableEq, Repr

def streamRecordLine (tag : Bytes) (streamId : StreamId) (length : Nat) (payload : Bytes) :
    Bytes :=
  tag ++ ascii " side=server transport=stream stream_id=" ++ decimal streamId ++
    ascii " length=" ++ decimal length ++ ascii " payload=" ++ formatEchoPayload payload

def datagramRecordLine (tag : Bytes) (length : Nat) (payload : Bytes) : Bytes :=
  tag ++ ascii " side=server transport=datagram length=" ++ decimal length ++
    ascii " payload=" ++ formatEchoPayload payload

def ServerRecord.lines : ServerRecord → List Bytes
  | .streamReceive id length payload =>
    [streamRecordLine (ascii "[echo_receive]") id length payload]
  | .streamSend id length payload => [streamRecordLine (ascii "[echo_send]") id length payload]
  | .datagramReceive length payload => [datagramRecordLine (ascii "[echo_receive]") length payload]
  | .datagramSend length payload => [datagramRecordLine (ascii "[echo_send]") length payload]

def ServerRecord.text (record : ServerRecord) : Bytes := linesText record.lines

inductive OutputStream where
  | cout | cerr
  deriving DecidableEq, Repr

/-- The records of `RunClient` once the session visitor is installed. `index` is the loop
variable `i`; the text shows `i + 1`. -/
inductive ClientRecord where
  | sessionTimeout
  | sessionFailed (error : Bytes)
  | unableToOpen (error : Bytes)
  | openFailed
  | echoReceive (index : Nat) (streamId : StreamId) (response : Bytes) (rttMicroseconds : Nat)
  | echoSend (index : Nat) (streamId : StreamId) (message : Bytes)
  | echoTimeout (index : Nat)
  | verifyFailed (index : Nat) (streamId : StreamId) (message response error : Bytes)
  | verifyOk (index : Nat) (streamId : StreamId) (count : Nat) (response : Bytes)
  deriving DecidableEq, Repr

/-- `tag side=client index=.. stream_id=..`, with which every per-operation record begins. -/
def operationHeader (tag : Bytes) (index : Nat) (streamId : StreamId) : Bytes :=
  tag ++ ascii " side=client index=" ++ decimal (index + 1) ++ ascii " stream_id=" ++
    decimal streamId

def verifyTag : Bytes := ascii "[echo_verify]"

/-- The first line of the `verify=failed` record shows two payloads. -/
def verifyFailedLine (index : Nat) (streamId : StreamId) (message response : Bytes) : Bytes :=
  operationHeader verifyTag index streamId ++ ascii " verify=failed expected=" ++
    formatEchoPayload message ++ ascii " actual=" ++ formatEchoPayload response

def ClientRecord.lines : ClientRecord → List Bytes
  | .sessionTimeout => [ascii "Timed out waiting for the WebTransport session"]
  | .sessionFailed error => [ascii "WebTransport session failed: " ++ error]
  | .unableToOpen error => [ascii "Unable to open echo stream: " ++ error]
  | .openFailed => [ascii "Failed to create echo stream"]
  | .echoReceive index id response rtt =>
    [operationHeader (ascii "[echo_receive]") index id ++ ascii " length=" ++
      decimal response.length ++ ascii " payload=" ++ formatEchoPayload response ++
      ascii " rtt_ms=" ++ doubleText rtt 1000]
  | .echoSend index id message =>
    [operationHeader (ascii "[echo_send]") index id ++ ascii " length=" ++
      decimal message.length ++ ascii " payload=" ++ formatEchoPayload message]
  | .echoTimeout index => [ascii "Timed out waiting for echo " ++ decimal (index + 1)]
  | .verifyFailed index id message response error =>
    [verifyFailedLine index id message response,
      ascii "Echo " ++ decimal (index + 1) ++ ascii " failed" ++
        (if error = [] then [] else ascii ": " ++ error)]
  | .verifyOk index id count response =>
    [operationHeader verifyTag index id ++ ascii " verify=ok",
      ascii "Echo " ++ decimal (index + 1) ++ ascii "/" ++ decimal count ++
        ascii " succeeded: " ++ response]

def ClientRecord.text (record : ClientRecord) : Bytes := linesText record.lines

def ClientRecord.stream : ClientRecord → OutputStream
  | .echoReceive .. | .echoSend .. | .verifyOk .. => .cout
  | _ => .cerr

end WebTransportDemo.Source
