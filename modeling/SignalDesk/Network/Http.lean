import SignalDesk.Number.Binary64

namespace SignalDesk

inductive Method
  | get
  | post
deriving DecidableEq, Repr

def Method.name : Method → String
  | get => "GET"
  | post => "POST"

inductive ParamValue
  | text (s : String)
  | int (n : Int)
deriving DecidableEq, Repr

/-- A request. Orders carry the caller's key. -/
structure Request where
  method : Method
  url : String
  params : List (String × ParamValue)
  timeout : Real64
  key : Option String
deriving DecidableEq, Repr

/-- How a request can fail before there is a reply. -/
inductive FaultKind
  | connectError
  | readTimeout
  | connectTimeout
  | poolTimeout
  | readError
  | writeError
  | proxyError
  | remoteProtocolError
  | unsupportedProtocol
  | decodingError
  | tooManyRedirects
  | invalidUrl
  | streamError
deriving DecidableEq, Repr

namespace FaultKind

def all : List FaultKind :=
  [connectError, readTimeout, connectTimeout, poolTimeout, readError, writeError, proxyError,
    remoteProtocolError, unsupportedProtocol, decodingError, tooManyRedirects, invalidUrl,
    streamError]

def name : FaultKind → String
  | connectError => "ConnectError"
  | readTimeout => "ReadTimeout"
  | connectTimeout => "ConnectTimeout"
  | poolTimeout => "PoolTimeout"
  | readError => "ReadError"
  | writeError => "WriteError"
  | proxyError => "ProxyError"
  | remoteProtocolError => "RemoteProtocolError"
  | unsupportedProtocol => "UnsupportedProtocol"
  | decodingError => "DecodingError"
  | tooManyRedirects => "TooManyRedirects"
  | invalidUrl => "InvalidURL"
  | streamError => "StreamError"

def ofName? (s : String) : Option FaultKind := all.find? (·.name == s)

/-- Faults of the connection itself. -/
def isTransport : FaultKind → Bool
  | decodingError | tooManyRedirects | invalidUrl | streamError => false
  | _ => true

/-- Faults of one request: those of the connection, an undecodable reply, a chain of redirects. -/
def isRequest : FaultKind → Bool
  | invalidUrl | streamError => false
  | _ => true

end FaultKind

structure Fault where
  kind : FaultKind
  message : String
deriving DecidableEq, Repr

/-- What comes back for a request; `silence` is no reply within the caller's patience. -/
inductive Reply
  | answer (status : Int) (body : String)
  | fault (f : Fault)
  | silence
deriving DecidableEq, Repr

end SignalDesk
