/-!
# Servers

A server answers a request by its address and by the number of requests before it.

* `Answer`: a response, a failure of the transport, or a failure of the client itself;
* `reasonPhrase`: the standard phrase of a status;
* `Server.scripted`: answers given in advance, the last one for ever.
-/

namespace Typings

/-! ## Answers -/

/-- Failures of a client that a further attempt would only repeat. -/
inductive ClientProblem where
  | undecodableBody
  | redirectLoop
  | badAddress
deriving DecidableEq, Repr

inductive Answer where
  | response (status : Nat) (body : String)
  | transportFailure (message : String)
  | clientFailure (problem : ClientProblem) (message : String)
deriving DecidableEq, Repr

/-- The standard phrases by status. -/
def reasonPhrases : List (Nat × String) :=
  [(100, "Continue"), (101, "Switching Protocols"), (102, "Processing"), (103, "Early Hints"),
   (200, "OK"), (201, "Created"), (202, "Accepted"), (203, "Non-Authoritative Information"),
   (204, "No Content"), (205, "Reset Content"), (206, "Partial Content"), (207, "Multi-Status"),
   (208, "Already Reported"), (226, "IM Used"),
   (300, "Multiple Choices"), (301, "Moved Permanently"), (302, "Found"), (303, "See Other"),
   (304, "Not Modified"), (305, "Use Proxy"), (307, "Temporary Redirect"),
   (308, "Permanent Redirect"),
   (400, "Bad Request"), (401, "Unauthorized"), (402, "Payment Required"), (403, "Forbidden"),
   (404, "Not Found"), (405, "Method Not Allowed"), (406, "Not Acceptable"),
   (407, "Proxy Authentication Required"), (408, "Request Timeout"), (409, "Conflict"),
   (410, "Gone"), (411, "Length Required"), (412, "Precondition Failed"),
   (413, "Request Entity Too Large"), (414, "Request-URI Too Long"),
   (415, "Unsupported Media Type"), (416, "Requested Range Not Satisfiable"),
   (417, "Expectation Failed"), (418, "I'm a teapot"), (421, "Misdirected Request"),
   (422, "Unprocessable Entity"), (423, "Locked"), (424, "Failed Dependency"),
   (425, "Too Early"), (426, "Upgrade Required"), (428, "Precondition Required"),
   (429, "Too Many Requests"), (431, "Request Header Fields Too Large"),
   (451, "Unavailable For Legal Reasons"),
   (500, "Internal Server Error"), (501, "Not Implemented"), (502, "Bad Gateway"),
   (503, "Service Unavailable"), (504, "Gateway Timeout"), (505, "HTTP Version Not Supported"),
   (506, "Variant Also Negotiates"), (507, "Insufficient Storage"), (508, "Loop Detected"),
   (510, "Not Extended"), (511, "Network Authentication Required")]

/-- The phrase of a status, empty for an unknown one. -/
def reasonPhrase (status : Nat) : String :=
  (List.lookup status reasonPhrases).getD ""

/-! ## Servers -/

/-- The answer to a request, by the number of requests before it and its address. -/
abbrev Server := Nat → String → Answer

/-- A server that gives prepared answers in order, then the last one for ever; without any it
finds nothing. -/
def Server.scripted (answers : List Answer) : Server := fun number _ =>
  (answers[number]?.or answers.getLast?).getD (.response 404 "")

end Typings
