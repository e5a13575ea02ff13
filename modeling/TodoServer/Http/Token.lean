/-!
# Characters of messages

Tokens are the words of the protocol; header values may hold more.
-/

namespace TodoServer.Http

/-- Whether a character may stand in a token. -/
def isTokenChar (c : Char) : Bool :=
  c.isAlphanum || ['!', '#', '$', '%', '&', '\x27', '*', '+', '-', '.', '^', '_', '\x60', '|',
    '~'].contains c

/-- Whether a text is a token: the name of a method or of a header. -/
def isToken (s : String) : Bool :=
  !s.isEmpty && s.toList.all isTokenChar

/-- Whether a text may be the value of a header: it holds no control character but tabs. -/
def isFieldValue (s : String) : Bool :=
  s.toList.all fun c => c == '\t' || (32 ≤ c.toNat && c.toNat ≠ 127)

/-- Whether a text is made of visible ASCII characters, blanks and tabs. -/
def isPlain (s : String) : Bool :=
  s.toList.all fun c => c == '\t' || (32 ≤ c.toNat && c.toNat < 127)

end TodoServer.Http
